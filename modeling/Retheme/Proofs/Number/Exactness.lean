import Retheme.Proofs.Number.UnitText

/-!
# Integers in doubles

The double of an integer holds a multiple of the distance between the doubles
around it, the nearest one; this is the integer itself when fifty-three binary
digits and zeros behind them write it (`text_int_iff`). A number is written by
what its double holds, so the text of any other integer, if it has one, is that
of another integer.
-/

namespace Retheme.Binary64

variable {num den mantissa n : Nat} {exponent : Int} {negative : Bool} {x : Float}

-- ---------------------------------------------------------------------------
-- Shapes from bits
-- ---------------------------------------------------------------------------

theorem shapeOfBits_of_isDouble (h : IsDouble mantissa exponent) (negative : Bool) :
    shapeOfBits ((exponent - minExponent).toNat * twoTo 52 + mantissa +
      if negative then twoTo 63 else 0) = .finite negative mantissa exponent := by
  obtain ⟨hlt, hge, hle, hfull⟩ := h
  have h52 : twoTo 52 = 4503599627370496 := rfl
  have h63 : twoTo 63 = 9223372036854775808 := rfl
  have h11 : twoTo 11 = 2048 := rfl
  rw [minExponent] at *
  obtain ⟨scale, hs⟩ : ∃ scale, scale = (exponent - -1074).toNat := ⟨_, rfl⟩
  obtain ⟨sign, hn⟩ : ∃ sign : Nat, sign = if negative then 1 else 0 := ⟨_, rfl⟩
  have hbits : scale * twoTo 52 + mantissa + (if negative then twoTo 63 else 0) =
      scale * 4503599627370496 + mantissa + sign * 9223372036854775808 := by
    rw [hn, h52, h63]
    cases negative <;> simp
  have hsign : sign ≤ 1 ∧ (sign == 1) = negative := by
    rw [hn]
    cases negative <;> decide
  have htop : (scale * 4503599627370496 + mantissa + sign * 9223372036854775808) /
      9223372036854775808 = sign := by omega
  rw [← hs, hbits]
  simp only [shapeOfBits, h52, h63, h11, htop, hsign.2, minExponent]
  by_cases hm : mantissa < 4503599627370496
  · -- The exponent is the least one, and its bits are zero.
    obtain rfl : exponent = -1074 := by omega
    obtain rfl : scale = 0 := by omega
    have hbiased : (0 * 4503599627370496 + mantissa + sign * 9223372036854775808) /
      4503599627370496 % 2048 = 0 := by omega
    have hfraction : (0 * 4503599627370496 + mantissa + sign * 9223372036854775808) %
      4503599627370496 = mantissa := by omega
    rw [hbiased, hfraction]
    rfl
  · -- The highest bit of the mantissa is not written.
    have hbiased : (scale * 4503599627370496 + mantissa + sign * 9223372036854775808) /
      4503599627370496 % 2048 = scale + 1 := by omega
    have hfraction : 4503599627370496 +
      (scale * 4503599627370496 + mantissa + sign * 9223372036854775808) % 4503599627370496 =
        mantissa := by omega
    rw [hbiased, hfraction, if_neg (by omega), if_neg (by omega)]
    congr 1
    omega

theorem shape_nearest (h : IsDouble mantissa exponent)
    (hb : nearestBits num den = (exponent - minExponent).toNat * twoTo 52 + mantissa)
    (negative : Bool) : shape (nearest negative num den) = .finite negative mantissa exponent := by
  have hfinite : Shape.finite negative mantissa exponent ≠ .nan := nofun
  have hshape := shapeOfBits_of_isDouble h negative
  have hlt : (exponent - minExponent).toNat * twoTo 52 + mantissa +
      (if negative then twoTo 63 else 0) < 2 ^ 64 := by
    obtain ⟨hlt, hge, hle, hfull⟩ := h
    have h52 : twoTo 52 = 4503599627370496 := rfl
    have h63 : twoTo 63 = 9223372036854775808 := rfl
    rw [minExponent, h52, h63] at *
    split <;> omega
  rw [nearest, hb, shape]
  rw [← UInt64.toNat_ofNat_of_lt' hlt] at hshape
  rw [toBits_ofBits (by rwa [hshape]), hshape]

-- ---------------------------------------------------------------------------
-- Integers
-- ---------------------------------------------------------------------------

def spacing (n : Nat) : Nat := twoTo (n.log2 - 52)

def rounded (n : Nat) : Nat := roundDiv n (spacing n) * spacing n

theorem roundDiv_one (n : Nat) : roundDiv n 1 = n := by
  rw [roundDiv]
  simp only [Nat.div_one, Nat.mod_one]
  rfl

theorem integerMantissa_mul (n : Nat) :
    (integerMantissa n : ℚ) * 2 ^ ((n.log2 : Int) - 52) = rounded n := by
  rw [integerMantissa, rounded, spacing]
  rcases Nat.le_total n.log2 52 with h | h
  · have hz : n.log2 - 52 = 0 := by omega
    have hone : twoTo 0 = 1 := rfl
    have hexp : ((n.log2 : Int) - 52) = -((52 - n.log2 : Nat) : Int) := by omega
    rw [hz, hone, roundDiv_one, roundDiv_one, hexp, Nat.cast_mul, cast_twoTo, zpow_neg,
      zpow_natCast, Nat.mul_one, mul_assoc, mul_inv_cancel₀ (by positivity), mul_one]
  · have hz : 52 - n.log2 = 0 := by omega
    have hone : twoTo 0 = 1 := rfl
    have hexp : ((n.log2 : Int) - 52) = ((n.log2 - 52 : Nat) : Int) := by omega
    rw [hz, hone, Nat.mul_one, hexp, zpow_natCast, Nat.cast_mul, cast_twoTo]

theorem exists_isDouble (hr : n < range) : ∃ mantissa exponent, IsDouble mantissa exponent ∧
    nearestBits n 1 = (exponent - minExponent).toNat * twoTo 52 + mantissa ∧
      (mantissa : ℚ) * 2 ^ exponent = rounded n := by
  by_cases hn : n = 0
  · subst hn
    refine ⟨0, minExponent, ⟨by decide, le_refl _, by decide, fun h => absurd h (lt_irrefl _)⟩,
      by decide, ?_⟩
    have hz : rounded 0 = 0 := by decide
    rw [hz, Nat.cast_zero, zero_mul]
  obtain ⟨hlow, hhigh⟩ := mantissa_quotient hn
  have hl : n * twoTo (52 - n.log2) / twoTo (n.log2 - 52) ≤ integerMantissa n :=
    div_le_roundDiv _ _
  have hu : integerMantissa n ≤ n * twoTo (52 - n.log2) / twoTo (n.log2 - 52) + 1 :=
    roundDiv_le_succ _ _
  have hbits := nearestBits_integer hn
  have hfinite := mt (nearestBits_eq_infinity_iff n).mp (Nat.not_le_of_lt hr)
  have hvalue := integerMantissa_mul n
  have h52 : twoTo 52 = 4503599627370496 := rfl
  rw [h52] at hfinite hbits
  by_cases hm : integerMantissa n < 2 ^ 53
  · refine ⟨integerMantissa n, (n.log2 : Int) - 52, ?_, ?_, hvalue⟩
    · exact ⟨hm, by rw [minExponent]; omega, by omega, fun _ => by omega⟩
    · rw [hbits, minExponent, h52]
      omega
  · -- The quotient rounds up to a power of two, and the exponent is one more.
    have hm : integerMantissa n = 2 ^ 53 := by omega
    refine ⟨2 ^ 52, (n.log2 : Int) - 51, ?_, ?_, ?_⟩
    · exact ⟨by decide, by rw [minExponent]; omega, by omega, fun _ => le_refl _⟩
    · rw [hbits, minExponent, h52]
      omega
    · have hexp : ((n.log2 : Int) - 51) = (n.log2 - 52) + 1 := by ring
      rw [← hvalue, hm, hexp, zpow_add_one₀ two_ne_zero]
      push_cast
      ring

theorem spacing_pos (n : Nat) : 0 < spacing n := twoTo_pos _

theorem rounded_eq_self_iff_dvd : rounded n = n ↔ spacing n ∣ n := by
  constructor
  · intro h
    rw [rounded] at h
    exact ⟨_, (Nat.mul_comm _ _).trans h |>.symm⟩
  · rintro h
    have hm := Nat.mod_eq_zero_of_dvd h
    have hdiv : roundDiv n (spacing n) = n / spacing n := by
      rw [roundDiv, hm, Nat.mul_zero, if_pos (spacing_pos n)]
    rw [rounded, hdiv, Nat.div_mul_cancel h]

/-- Fifty-three binary digits write an integer, with zeros behind them up to the end of the
doubles. -/
def IsShort (n : Nat) : Prop :=
  ∃ mantissa zeros, n = mantissa * 2 ^ zeros ∧ mantissa < 2 ^ 53 ∧ zeros ≤ 971

theorem IsShort.lt_range (h : IsShort n) : n < range := by
  obtain ⟨mantissa, zeros, rfl, hm, hz⟩ := h
  obtain ⟨unit, hu⟩ : ∃ unit, unit = 2 ^ 970 := ⟨_, rfl⟩
  have hpos : 0 < unit := by
    rw [hu]
    positivity
  have hr : range = 2 ^ 54 * unit - unit := by rw [range, hu, ← Nat.pow_add]
  have hpow : ∀ top, zeros ≤ top + 1 → 2 ^ zeros ≤ 2 ^ top * 2 := fun top h =>
    (Nat.pow_le_pow_right Nat.two_pos h).trans_eq (Nat.pow_succ 2 top)
  have hle : mantissa * 2 ^ zeros ≤ (2 ^ 53 - 1) * (unit * 2) :=
    Nat.mul_le_mul (Nat.le_pred_of_lt hm) (by rw [hu]; exact hpow 970 hz)
  omega

theorem IsShort.spacing_dvd (h : IsShort n) : spacing n ∣ n := by
  obtain ⟨mantissa, zeros, rfl, hm, hz⟩ := h
  by_cases hzero : mantissa = 0
  · simp [hzero]
  have hne : mantissa * 2 ^ zeros ≠ 0 := Nat.mul_ne_zero hzero (Nat.two_pow_pos _).ne'
  have hlog : (mantissa * 2 ^ zeros).log2 < 53 + zeros := by
    rw [Nat.log2_lt hne, Nat.pow_add]
    exact Nat.mul_lt_mul_of_pos_right hm (Nat.two_pow_pos _)
  rw [spacing, twoTo_eq]
  exact (Nat.pow_dvd_pow 2 (by omega)).trans (Nat.dvd_mul_left _ _)

theorem isShort_of_dvd (hr : n < range) (h : spacing n ∣ n) : IsShort n := by
  by_cases hn : n = 0
  · exact ⟨0, 0, by simp [hn], by decide, by decide⟩
  have hlog : ∀ top low, n < 2 ^ top - 2 ^ low → n.log2 < top := fun top low h =>
    (Nat.log2_lt hn).mpr (h.trans_le (Nat.sub_le _ _))
  have hlt : n.log2 < 1024 := hlog 1024 970 hr
  obtain ⟨mantissa, hm⟩ := h
  rw [spacing, twoTo_eq] at hm
  refine ⟨mantissa, n.log2 - 52, hm.trans (Nat.mul_comm _ _), ?_, by omega⟩
  have hmul : 2 ^ (n.log2 - 52) * mantissa < 2 ^ (n.log2 - 52) * 2 ^ 53 :=
    calc 2 ^ (n.log2 - 52) * mantissa = n := hm.symm
      _ < 2 ^ (n.log2 + 1) := Nat.lt_log2_self
      _ ≤ 2 ^ (n.log2 - 52 + 53) := Nat.pow_le_pow_right Nat.two_pos (by omega)
      _ = 2 ^ (n.log2 - 52) * 2 ^ 53 := Nat.pow_add _ _ _
  exact Nat.lt_of_mul_lt_mul_left hmul

/-- An integer with a double is held by it exactly when it is short. -/
theorem isShort_iff : IsShort n ↔ n < range ∧ rounded n = n := by
  rw [rounded_eq_self_iff_dvd]
  exact ⟨fun h => ⟨h.lt_range, h.spacing_dvd⟩, fun h => isShort_of_dvd h.1 h.2⟩

end Retheme.Binary64

namespace Retheme

-- ---------------------------------------------------------------------------
-- Digits of an integer
-- ---------------------------------------------------------------------------

namespace Integer

variable {text : Text} {m n : Int}

/-- A text consists of the decimal digits of an integer, behind a minus if it is negative. -/
def IsNumeral (text : Text) (n : Int) : Prop :=
  ∃ digits, IsWhole digits ∧ digits.digitsValue = n.natAbs ∧
    text = if n < 0 then '-' :: digits else digits

theorem isNumeral_text (n : Int) : IsNumeral (Integer.text n) n :=
  ⟨digits n.natAbs, isWhole_digits _, digitsValue_digits _, rfl⟩

theorem IsNumeral.unique (h : IsNumeral text m) (h' : IsNumeral text n) : m = n := by
  obtain ⟨digits, hw, hv, ht⟩ := h
  obtain ⟨others, hw', hv', ht'⟩ := h'
  have hminus : ∀ {digits others : Text}, IsWhole others → '-' :: digits ≠ others := by
    rintro digits _ hw rfl
    exact absurd (hw.digit '-' List.mem_cons_self) (by decide)
  rw [ht] at ht'
  split at ht' <;> split at ht'
  · obtain rfl := (List.cons.inj ht').2
    omega
  · exact absurd ht' (hminus hw')
  · exact absurd ht'.symm (hminus hw)
  · obtain rfl := ht'
    omega

end Integer

namespace Number

open Binary64 (IsShort rounded range)

def held (n : Int) : Int := if n < 0 then -(rounded n.natAbs) else rounded n.natAbs

theorem held_eq_self_iff (n : Int) : held n = n ↔ rounded n.natAbs = n.natAbs := by
  rw [held]
  split <;> omega

theorem text_int (n : Int) :
    (Number.int n).text =
      if n.natAbs < range then .ok (Integer.text (held n)) else .error .tooLarge := by
  split
  · next h =>
    obtain ⟨mantissa, exponent, hx, hbits, hvalue⟩ := Binary64.exists_isDouble h
    have hof : Binary64.ofInt? n = some (Binary64.nearest (n < 0) n.natAbs 1) := by
      have hfinite := mt (Binary64.nearestBits_eq_infinity_iff n.natAbs).mp (Nat.not_le_of_lt h)
      rw [Binary64.ofInt?, if_neg hfinite]
    have hwhole := whole?_of_shape (Binary64.shape_nearest hx hbits (decide (n < 0))) hvalue
    simp only [text, toFloat, hof, bind, Except.bind, hwhole, decide_eq_true_eq]
    rfl
  · next h =>
    have hof := (Binary64.ofInt?_eq_none_iff n).mpr (Nat.le_of_not_lt h)
    simp only [text, toFloat, hof]
    rfl

/-- The text of an integer consists of its digits exactly when the integer is short. -/
theorem text_int_iff (n : Int) :
    (∃ text, (Number.int n).text = .ok text ∧ Integer.IsNumeral text n) ↔ IsShort n.natAbs := by
  rw [Binary64.isShort_iff, ← held_eq_self_iff, text_int]
  split
  · next h =>
    constructor
    · rintro ⟨text, ht, hn⟩
      obtain rfl := Except.ok.inj ht
      exact ⟨h, (Integer.isNumeral_text (held n)).unique hn⟩
    · rintro ⟨-, hh⟩
      exact ⟨_, rfl, by rw [hh]; exact Integer.isNumeral_text n⟩
  · next h => exact iff_of_false (by rintro ⟨_, ⟨⟩, -⟩) fun hs => h hs.1

end Number

end Retheme
