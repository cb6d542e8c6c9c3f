import Mathlib.Algebra.Order.Field.Power
import Mathlib.Data.Rat.Cast.Order
import Mathlib.Tactic.FieldSimp
import Mathlib.Tactic.Linarith
import Mathlib.Tactic.NormNum
import Mathlib.Tactic.Positivity
import Mathlib.Tactic.Ring
import Retheme.Number.Binary64

/-!
# Rounding to the nearest double

A double stands for an interval of the rational numbers: those that lie nearer
to it than to its neighbours, and the ends as well when its mantissa is even.
Whatever lies in the interval rounds to the bits of the double.
-/

namespace Retheme.Binary64

variable {num den k mantissa : Nat} {exponent : Int} {value : ℚ}

-- ---------------------------------------------------------------------------
-- Powers with integer exponents
-- ---------------------------------------------------------------------------

theorem zpow_eq_div (base : ℚ) (exponent : Int) :
    base ^ exponent = base ^ exponent.toNat / base ^ (-exponent).toNat := by
  rcases Int.le_total 0 exponent with h | h
  · have hn : (-exponent).toNat = 0 := by omega
    rw [hn, pow_zero, div_one, ← zpow_natCast, Int.toNat_of_nonneg h]
  · have hp : exponent.toNat = 0 := by omega
    rw [hp, pow_zero, one_div, ← zpow_natCast, Int.toNat_of_nonneg (by omega), zpow_neg, inv_inv]

theorem cast_twoTo (n : Nat) : (twoTo n : ℚ) = 2 ^ n := by
  rw [twoTo, Nat.pow_eq, Nat.cast_pow, Nat.cast_two]

theorem twoTo_pos (n : Nat) : 0 < twoTo n := Nat.two_pow_pos n

theorem mul_lt_mul_iff_div_lt {a b c d : Nat} (hb : 0 < b) (hd : 0 < d) :
    a * d < c * b ↔ (a / b : ℚ) < c / d := by
  rw [div_lt_div_iff₀ (by positivity) (by positivity)]
  exact_mod_cast Iff.rfl

theorem div_scaled (num den : Nat) (exponent : Int) :
    ((num * twoTo (-exponent).toNat : Nat) / (den * twoTo exponent.toNat : Nat) : ℚ) =
      num / den / 2 ^ exponent := by
  rw [zpow_eq_div, Nat.cast_mul, Nat.cast_mul, cast_twoTo, cast_twoTo, div_div_div_eq]

-- ---------------------------------------------------------------------------
-- The binary place of a fraction
-- ---------------------------------------------------------------------------

theorem log2_sub_spec (hn : 0 < num) (hd : 0 < den) :
    (2 : ℚ) ^ (num.log2 - den.log2 - 1 : Int) ≤ num / den ∧
      (num / den : ℚ) < 2 ^ (num.log2 - den.log2 + 1 : Int) := by
  have hnum : (2 : ℚ) ^ (num.log2 : Int) ≤ num ∧ (num : ℚ) < 2 ^ (num.log2 + 1 : Int) := by
    refine ⟨?_, ?_⟩
    · exact_mod_cast Nat.log2_self_le hn.ne'
    · exact_mod_cast Nat.lt_log2_self
  have hden : (2 : ℚ) ^ (den.log2 : Int) ≤ den ∧ (den : ℚ) < 2 ^ (den.log2 + 1 : Int) := by
    refine ⟨?_, ?_⟩
    · exact_mod_cast Nat.log2_self_le hd.ne'
    · exact_mod_cast Nat.lt_log2_self
  have hpos : (0 : ℚ) < den := by exact_mod_cast hd
  obtain ⟨guess, hg⟩ : ∃ guess : Int, guess = num.log2 - den.log2 := ⟨_, rfl⟩
  rw [← hg]
  refine ⟨?_, ?_⟩
  · rw [le_div_iff₀ hpos]
    calc (2 : ℚ) ^ (guess - 1) * den ≤ 2 ^ (guess - 1) * 2 ^ (den.log2 + 1 : Int) := by
          gcongr
          exact hden.2.le
      _ = 2 ^ (num.log2 : Int) := by
          rw [← zpow_add₀ two_ne_zero]
          congr 1
          omega
      _ ≤ num := hnum.1
  · rw [div_lt_iff₀ hpos]
    calc (num : ℚ) < 2 ^ (num.log2 + 1 : Int) := hnum.2
      _ = 2 ^ (guess + 1) * 2 ^ (den.log2 : Int) := by
          rw [← zpow_add₀ two_ne_zero]
          congr 1
          omega
      _ ≤ 2 ^ (guess + 1) * den := by
          gcongr
          exact hden.1

theorem floorLog_spec (hn : 0 < num) (hd : 0 < den) :
    (2 : ℚ) ^ floorLog num den ≤ num / den ∧ (num / den : ℚ) < 2 ^ (floorLog num den + 1) := by
  obtain ⟨hlow, hhigh⟩ := log2_sub_spec hn hd
  have hcmp : ∀ guess : Int,
      num * twoTo (-guess).toNat < den * twoTo guess.toNat ↔ (num / den : ℚ) < 2 ^ guess := by
    intro guess
    rw [mul_comm den, mul_lt_mul_iff_div_lt hd (twoTo_pos _), cast_twoTo, cast_twoTo,
      ← zpow_eq_div]
  simp only [floorLog, hcmp]
  split
  · next h => exact ⟨hlow, by simpa using h⟩
  · next h => exact ⟨not_lt.mp h, hhigh⟩

theorem floorLog_eq (hn : 0 < num) (hd : 0 < den) (hl : (2 : ℚ) ^ exponent ≤ num / den)
    (hu : (num / den : ℚ) < 2 ^ (exponent + 1)) : floorLog num den = exponent := by
  obtain ⟨hl', hu'⟩ := floorLog_spec hn hd
  have h₁ := (zpow_lt_zpow_iff_right₀ one_lt_two).mp (hl.trans_lt hu')
  have h₂ := (zpow_lt_zpow_iff_right₀ one_lt_two).mp (hl'.trans_lt hu)
  omega

theorem floorLog_lt (hn : 0 < num) (hd : 0 < den) (hu : (num / den : ℚ) < 2 ^ exponent) :
    floorLog num den < exponent :=
  (zpow_lt_zpow_iff_right₀ one_lt_two).mp ((floorLog_spec hn hd).1.trans_lt hu)

-- ---------------------------------------------------------------------------
-- Rounded quotients
-- ---------------------------------------------------------------------------

theorem roundDiv_eq_of_mul (hl : 2 * k * den ≤ 2 * num + den) (hu : 2 * num ≤ (2 * k + 1) * den)
    (ho : k % 2 = 1 → 2 * k * den < 2 * num + den ∧ 2 * num < (2 * k + 1) * den) (hd : 0 < den) :
    roundDiv num den = k := by
  have hn : num = den * (num / den) + num % den := (Nat.div_add_mod num den).symm
  have hm : num % den < den := Nat.mod_lt num hd
  simp only [roundDiv]
  generalize num / den = quotient at hn ⊢
  generalize num % den = rest at hn hm ⊢
  have e₁ : 2 * k * den = 2 * (den * k) := by ring
  have e₂ : (2 * k + 1) * den = 2 * (den * k) + den := by ring
  rw [e₁] at hl ho
  rw [e₂] at hu ho
  -- The integer part of the quotient is the integer or the one below it.
  rcases Nat.lt_trichotomy k quotient with h | rfl | h
  · have hp : den * (k + 1) ≤ den * quotient := Nat.mul_le_mul_left den h
    rw [Nat.mul_succ] at hp
    omega
  · split
    · rfl
    · split <;> omega
  · have hp : den * (quotient + 1) ≤ den * k := Nat.mul_le_mul_left den h
    rw [Nat.mul_succ] at hp
    have hk : k = quotient + 1 := by
      by_contra hne
      have hp' : den * (quotient + 2) ≤ den * k := Nat.mul_le_mul_left den (by omega)
      rw [Nat.mul_succ, Nat.mul_succ] at hp'
      omega
    subst hk
    rw [Nat.mul_succ] at hl hu ho
    split
    · omega
    · split <;> omega

/-- A quotient within a half of an integer rounds to it, at the ends when the integer is even. -/
theorem roundDiv_eq (hd : 0 < den) (hl : (k : ℚ) - 1 / 2 ≤ num / den)
    (hu : (num / den : ℚ) ≤ k + 1 / 2)
    (ho : k % 2 = 1 → (k : ℚ) - 1 / 2 < num / den ∧ (num / den : ℚ) < k + 1 / 2) :
    roundDiv num den = k := by
  have hpos : (0 : ℚ) < den := by exact_mod_cast hd
  rw [le_div_iff₀ hpos] at hl
  rw [div_le_iff₀ hpos] at hu
  simp only [lt_div_iff₀ hpos, div_lt_iff₀ hpos] at ho
  have hl' : (2 * k * den : ℚ) ≤ 2 * num + den := by linarith
  have hu' : (2 * num : ℚ) ≤ (2 * k + 1) * den := by linarith
  refine roundDiv_eq_of_mul (by exact_mod_cast hl') (by exact_mod_cast hu') (fun hodd => ?_) hd
  obtain ⟨hlow, hhigh⟩ := ho hodd
  have hlow' : (2 * k * den : ℚ) < 2 * num + den := by linarith
  have hhigh' : (2 * num : ℚ) < (2 * k + 1) * den := by linarith
  exact ⟨by exact_mod_cast hlow', by exact_mod_cast hhigh'⟩

-- ---------------------------------------------------------------------------
-- Intervals
-- ---------------------------------------------------------------------------

/-- The mantissas and exponents of the finite doubles: a mantissa has fifty-three bits, unless the
exponent is the least one. -/
structure IsDouble (mantissa : Nat) (exponent : Int) : Prop where
  lt : mantissa < 2 ^ 53
  ge : minExponent ≤ exponent
  le : exponent ≤ 971
  full : minExponent < exponent → 2 ^ 52 ≤ mantissa

/-- How far below a double its interval begins, in units of its exponent. Below a power of two the
doubles lie half as far apart. -/
def below (mantissa : Nat) (exponent : Int) : ℚ :=
  if mantissa = 2 ^ 52 ∧ minExponent < exponent then 1 / 4 else 1 / 2

/-- A number lies in the interval of a double. The ends belong to it when the mantissa is even. -/
structure Within (value : ℚ) (mantissa : Nat) (exponent : Int) : Prop where
  low : (mantissa - below mantissa exponent) * 2 ^ exponent ≤ value
  high : value ≤ (mantissa + 1 / 2) * 2 ^ exponent
  inside : mantissa % 2 = 1 →
    (mantissa - below mantissa exponent) * 2 ^ exponent < value ∧
      value < (mantissa + 1 / 2) * 2 ^ exponent

theorem below_le (mantissa : Nat) (exponent : Int) : below mantissa exponent ≤ 1 / 2 := by
  rw [below]
  split <;> norm_num

theorem nearestBits_eq (hn : num ≠ 0) (he : max (floorLog num den - 52) minExponent = exponent)
    (hm : roundDiv (num * twoTo (-exponent).toNat) (den * twoTo exponent.toNat) = mantissa) :
    nearestBits num den =
      min ((exponent - minExponent).toNat * twoTo 52 + mantissa) (2047 * twoTo 52) := by
  simp only [nearestBits, if_neg hn, he, hm]

/-- A quotient in the interval of a double rounds to the mantissa, except from below a power of
two. -/
theorem roundDiv_of_within (hd : 0 < den) (hw : Within (num / den) mantissa exponent)
    (hb : below mantissa exponent = 1 / 2 ∨ (mantissa : ℚ) * 2 ^ exponent ≤ num / den) :
    roundDiv (num * twoTo (-exponent).toNat) (den * twoTo exponent.toNat) = mantissa := by
  have hp : (0 : ℚ) < 2 ^ exponent := by positivity
  obtain ⟨hl, hu, ho⟩ := hw
  rw [sub_mul] at hl ho
  refine roundDiv_eq (Nat.mul_pos hd (twoTo_pos _)) ?_ ?_ fun hodd => ⟨?_, ?_⟩ <;> rw [div_scaled]
  · rw [le_div_iff₀ hp, sub_mul]
    rcases hb with hb | hb
    · rwa [hb] at hl
    · linarith
  · rwa [div_le_iff₀ hp]
  · rw [lt_div_iff₀ hp, sub_mul]
    rcases hb with hb | hb
    · rw [hb] at ho
      exact (ho hodd).1
    · linarith
  · rw [div_lt_iff₀ hp]
    exact (ho hodd).2

theorem pos_of_within (hm : mantissa ≠ 0) (hw : Within value mantissa exponent) : 0 < value := by
  have hone : (1 : ℚ) ≤ mantissa := by exact_mod_cast Nat.one_le_iff_ne_zero.mpr hm
  have hb := below_le mantissa exponent
  have hpos : (0 : ℚ) < mantissa - below mantissa exponent := by linarith
  exact lt_of_lt_of_le (by positivity) hw.low

theorem num_pos_of_within (hm : mantissa ≠ 0) (hw : Within (num / den) mantissa exponent) :
    0 < num := by
  have hv := pos_of_within hm hw
  rcases Nat.eq_zero_or_pos num with rfl | h
  · simp at hv
  · exact h

theorem nearestBits_of_place (hx : IsDouble mantissa exponent) (hm : mantissa ≠ 0) (hd : 0 < den)
    (hw : Within (num / den) mantissa exponent)
    (hs : (2 : ℚ) ^ (exponent + 52) ≤ num / den ∨ exponent = minExponent) :
    nearestBits num den = (exponent - minExponent).toNat * twoTo 52 + mantissa := by
  obtain ⟨hlt, hge, hle, -⟩ := hx
  have hn := num_pos_of_within hm hw
  have hplace : floorLog num den < exponent + 53 := by
    refine floorLog_lt hn hd (hw.high.trans_lt ?_)
    have hm' : (mantissa + 1 : ℚ) ≤ 2 ^ 53 := by exact_mod_cast hlt
    rw [zpow_add₀ two_ne_zero, mul_comm]
    refine mul_lt_mul_of_pos_left ?_ (by positivity)
    norm_num at hm' ⊢
    linarith
  have he : max (floorLog num den - 52) minExponent = exponent := by
    rcases hs with hs | hs
    · have hlog := (zpow_lt_zpow_iff_right₀ one_lt_two).mp (hs.trans_lt (floorLog_spec hn hd).2)
      omega
    · omega
  have hb : below mantissa exponent = 1 / 2 ∨ (mantissa : ℚ) * 2 ^ exponent ≤ num / den := by
    by_cases hnar : mantissa = 2 ^ 52 ∧ minExponent < exponent
    · obtain ⟨rfl, hme⟩ := hnar
      rcases hs with hs | rfl
      · rw [zpow_add₀ two_ne_zero, mul_comm] at hs
        exact .inr (by exact_mod_cast hs)
      · exact absurd hme (lt_irrefl _)
    · exact .inl (if_neg hnar)
  have h52 : twoTo 52 = 2 ^ 52 := rfl
  rw [nearestBits_eq hn.ne' he (roundDiv_of_within hd hw hb), h52]
  rw [minExponent] at *
  omega

/-- A number below the place of the double rounds up to it, and the double is a power of two. -/
theorem nearestBits_of_below (hx : IsDouble mantissa exponent) (hm : mantissa ≠ 0) (hd : 0 < den)
    (hw : Within (num / den) mantissa exponent) (hmin : minExponent < exponent)
    (hs : (num / den : ℚ) < 2 ^ (exponent + 52)) :
    nearestBits num den = (exponent - minExponent).toNat * twoTo 52 + mantissa := by
  obtain ⟨hlt, hge, hle, hfull⟩ := hx
  have hn := num_pos_of_within hm hw
  have hdown : (2 : ℚ) ^ exponent = 2 * 2 ^ (exponent - 1) := by
    rw [← zpow_one_add₀ two_ne_zero]
    congr 1
    omega
  have hp : (0 : ℚ) < 2 ^ (exponent - 1) := by positivity
  rw [zpow_add₀ two_ne_zero, hdown] at hs
  have hlow := hw.low
  have hma : mantissa = 2 ^ 52 := by
    by_contra hma
    have hge' : (2 ^ 52 + 1 : ℚ) ≤ mantissa := by
      have := hfull hmin
      exact_mod_cast (by omega : 2 ^ 52 + 1 ≤ mantissa)
    rw [below, if_neg fun h => hma h.1, hdown] at hlow
    norm_num at hs
    nlinarith
  subst hma
  rw [below, if_pos ⟨rfl, hmin⟩, hdown] at hlow
  norm_num at hs hlow
  have he : max (floorLog num den - 52) minExponent = exponent - 1 := by
    have hlog : floorLog num den = exponent - 1 + 52 := by
      refine floorLog_eq hn hd ?_ ?_ <;> simp only [zpow_add₀ (two_ne_zero (α := ℚ))] <;>
        norm_num <;> linarith
    omega
  have hb : below (2 ^ 53) (exponent - 1) = 1 / 2 := if_neg (by simp)
  have hw' : Within (num / den) (2 ^ 53) (exponent - 1) := by
    refine ⟨?_, ?_, by simp⟩
    · rw [hb]
      norm_num
      linarith
    · norm_num
      linarith
  have h52 : twoTo 52 = 2 ^ 52 := rfl
  rw [nearestBits_eq hn.ne' he (roundDiv_of_within hd hw' (.inl hb)), h52]
  rw [minExponent] at *
  omega

/-- What lies in the interval of a double rounds to the bits of the double. -/
theorem nearestBits_of_within (hx : IsDouble mantissa exponent) (hm : mantissa ≠ 0) (hd : 0 < den)
    (hw : Within (num / den) mantissa exponent) :
    nearestBits num den = (exponent - minExponent).toNat * twoTo 52 + mantissa := by
  by_cases hs : (2 : ℚ) ^ (exponent + 52) ≤ num / den ∨ exponent = minExponent
  · exact nearestBits_of_place hx hm hd hw hs
  · obtain ⟨hs, hne⟩ := not_or.mp hs
    exact nearestBits_of_below hx hm hd hw (lt_of_le_of_ne hx.ge (Ne.symm hne)) (not_le.mp hs)

end Retheme.Binary64
