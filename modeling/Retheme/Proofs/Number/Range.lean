import Mathlib.Tactic.Positivity
import Mathlib.Tactic.Ring
import Retheme.Number.Binary64

/-!
# The range of the doubles

Rounding an integer reaches infinity exactly from the middle between the
greatest double and the next power of two on: a tie goes to the even mantissa,
which is that of the power.
-/

namespace Retheme.Binary64

variable {n num den k : Nat}

-- ---------------------------------------------------------------------------
-- Rounded quotients
-- ---------------------------------------------------------------------------

theorem div_le_roundDiv (num den : Nat) : num / den ≤ roundDiv num den := by
  unfold roundDiv
  dsimp only
  split
  · exact Nat.le_refl _
  · split <;> omega

theorem roundDiv_le_succ (num den : Nat) : roundDiv num den ≤ num / den + 1 := by
  unfold roundDiv
  dsimp only
  split
  · omega
  · split <;> omega

/-- Beyond an odd number the tie rounds up. -/
theorem lt_roundDiv_iff (hd : 0 < den) (hk : k % 2 = 1) :
    k < roundDiv num den ↔ (2 * k + 1) * den ≤ 2 * num := by
  have hn : num = den * (num / den) + num % den := (Nat.div_add_mod num den).symm
  have hm : num % den < den := Nat.mod_lt num hd
  rcases Nat.lt_trichotomy (num / den) k with hq | hq | hq
  · have hr := roundDiv_le_succ num den
    have hp : den * (num / den + 1) ≤ den * k := Nat.mul_le_mul_left den hq
    rw [Nat.mul_add] at hp
    have he : (2 * k + 1) * den = 2 * (den * k) + den := by ring
    omega
  · have he : (2 * k + 1) * den = 2 * (den * (num / den)) + den := by
      rw [hq]
      ring
    have hr : roundDiv num den = if 2 * (num % den) < den then k else k + 1 := by
      unfold roundDiv
      dsimp only
      rw [hq]
      split
      · rfl
      · split <;> omega
    rw [hr]
    split <;> omega
  · have hr := div_le_roundDiv num den
    have hp : den * (k + 1) ≤ den * (num / den) := Nat.mul_le_mul_left den hq
    rw [Nat.mul_add] at hp
    have he : (2 * k + 1) * den = 2 * (den * k) + den := by ring
    omega

-- ---------------------------------------------------------------------------
-- Bits of integers
-- ---------------------------------------------------------------------------

theorem twoTo_eq (n : Nat) : twoTo n = 2 ^ n := rfl

theorem floorLog_one (h : n ≠ 0) : floorLog n 1 = n.log2 := by
  have hle : 2 ^ n.log2 ≤ n := Nat.log2_self_le h
  have hz : Nat.log2 1 = 0 := by decide
  have hg : ((n.log2 : Int) - (0 : Nat)) = n.log2 := by omega
  have hneg : (-(n.log2 : Int)).toNat = 0 := by omega
  rw [floorLog, hz, hg, hneg, Int.toNat_natCast, twoTo_eq, twoTo_eq, if_neg (by omega)]

def integerMantissa (n : Nat) : Nat :=
  roundDiv (n * twoTo (52 - n.log2)) (twoTo (n.log2 - 52))

theorem nearestBits_integer (h : n ≠ 0) :
    nearestBits n 1 =
      min ((n.log2 + 1022) * twoTo 52 + integerMantissa n) (2047 * twoTo 52) := by
  have he : max (floorLog n 1 - 52) minExponent = (n.log2 : Int) - 52 := by
    rw [floorLog_one h, minExponent]
    omega
  have hneg : (-((n.log2 : Int) - 52)).toNat = 52 - n.log2 := by omega
  have hpos : ((n.log2 : Int) - 52).toNat = n.log2 - 52 := by omega
  have hbias : ((n.log2 : Int) - 52 - minExponent).toNat = n.log2 + 1022 := by
    rw [minExponent]
    omega
  rw [nearestBits, if_neg h]
  dsimp only
  rw [he, hneg, hpos, hbias, Nat.one_mul, integerMantissa]

theorem mantissa_quotient (h : n ≠ 0) :
    2 ^ 52 ≤ n * twoTo (52 - n.log2) / twoTo (n.log2 - 52) ∧
      n * twoTo (52 - n.log2) / twoTo (n.log2 - 52) < 2 ^ 53 := by
  have hlow : 2 ^ n.log2 ≤ n := Nat.log2_self_le h
  have hhigh : n < 2 ^ (n.log2 + 1) := Nat.lt_log2_self
  have hpos : 0 < twoTo (n.log2 - 52) := Nat.two_pow_pos _
  have hsplit : 2 ^ n.log2 * twoTo (52 - n.log2) = 2 ^ 52 * twoTo (n.log2 - 52) := by
    rw [twoTo_eq, twoTo_eq, ← Nat.pow_add, ← Nat.pow_add]
    congr 1
    omega
  constructor
  · rw [Nat.le_div_iff_mul_le hpos, ← hsplit]
    exact Nat.mul_le_mul_right _ hlow
  · rw [Nat.div_lt_iff_lt_mul hpos]
    have hs : 2 ^ (n.log2 + 1) * twoTo (52 - n.log2) = 2 ^ 53 * twoTo (n.log2 - 52) := by
      rw [Nat.pow_succ, Nat.mul_right_comm, hsplit]
      ring
    rw [← hs]
    exact Nat.mul_lt_mul_of_pos_right hhigh (Nat.two_pow_pos _)

def range : Nat := 2 ^ 1024 - 2 ^ 970

theorem le_range : 2 ^ 53 ≤ range := by
  have hr : range = (2 ^ 54 - 1) * 2 ^ 970 := by rw [range, Nat.sub_mul, ← Nat.pow_add]; simp
  rw [hr]
  exact Nat.le_trans (by decide) (Nat.le_mul_of_pos_right _ (Nat.two_pow_pos _))

theorem nearestBits_eq_infinity_iff (n : Nat) :
    nearestBits n 1 = 2047 * twoTo 52 ↔ range ≤ n := by
  obtain ⟨unit, hu⟩ : ∃ unit, unit = 2 ^ 970 := ⟨_, rfl⟩
  have hpos : 0 < unit := by
    rw [hu]
    positivity
  have hr : range = 2 ^ 54 * unit - unit := by rw [range, hu, ← Nat.pow_add]
  by_cases hn : n = 0
  · subst hn
    have hz : nearestBits 0 1 ≠ 2047 * twoTo 52 := by decide
    exact iff_of_false hz (by omega)
  obtain ⟨hlow, hhigh⟩ := mantissa_quotient hn
  have hm := div_le_roundDiv (n * twoTo (52 - n.log2)) (twoTo (n.log2 - 52))
  have hm' := roundDiv_le_succ (n * twoTo (52 - n.log2)) (twoTo (n.log2 - 52))
  rw [nearestBits_integer hn, integerMantissa, twoTo_eq 52]
  rcases Nat.lt_trichotomy n.log2 1023 with hl | hl | hl
  · -- The number lies below the half of the range.
    have hb : n < 2 ^ 53 * unit := by
      rw [hu, ← Nat.pow_add]
      exact Nat.lt_log2_self.trans_le (Nat.pow_le_pow_right Nat.two_pos (by omega))
    omega
  · -- The rounded quotient decides, and the last mantissa below the power is odd.
    have hd : twoTo (n.log2 - 52) = 2 * unit := by
      have he : n.log2 - 52 = 970 + 1 := by omega
      rw [twoTo_eq, he, hu, Nat.pow_succ']
    have hs : n * twoTo (52 - n.log2) = n := by rw [hl]; exact Nat.mul_one n
    have hk : 2 ^ 53 - 1 < roundDiv n (2 * unit) ↔ (2 * (2 ^ 53 - 1) + 1) * (2 * unit) ≤ 2 * n :=
      lt_roundDiv_iff (by omega) (by decide)
    rw [hd, hs] at hlow hhigh hm hm' ⊢
    rw [hl]
    omega
  · have hb : 2 ^ 54 * unit ≤ n := by
      rw [hu, ← Nat.pow_add]
      exact (Nat.pow_le_pow_right Nat.two_pos (by omega)).trans (Nat.log2_self_le hn)
    omega

/-- An integer has no double exactly when it rounds beyond the greatest one. -/
theorem ofInt?_eq_none_iff (n : Int) : ofInt? n = none ↔ range ≤ n.natAbs := by
  rw [ofInt?, ← nearestBits_eq_infinity_iff]
  split <;> simp_all

end Retheme.Binary64
