import Mathlib
import Retheme.Proofs.Number.Comparison
import Retheme.Proofs.Number.Numeral
/-!
# Texts of the numbers from zero to one

The notation of a double is positional or has an exponent, as the place of the
first digit of its shortest decimal is. Below one the decimal has an exponent
when the double lies below a ten-thousandth.
-/

namespace Retheme

namespace Integer

theorem le_length_digits {n : Nat} (hn : n ≠ 0) :
    10 ^ ((digits n).length - 1) ≤ n ∧ n < 10 ^ (digits n).length := by
  fun_induction digits n with
  | case1 n h => simpa using ⟨Nat.one_le_iff_ne_zero.mpr hn, h⟩
  | case2 n h ih =>
    obtain ⟨hl, hu⟩ := ih (by omega)
    have hpos := List.length_pos_iff.mpr (digits_ne_nil (n / 10))
    rw [List.length_append, List.length_singleton, Nat.add_sub_cancel]
    refine ⟨?_, ?_⟩
    · obtain ⟨k, hk⟩ : ∃ k, (digits (n / 10)).length = k + 1 := ⟨_, (Nat.sub_add_cancel hpos).symm⟩
      rw [hk, Nat.add_sub_cancel] at hl
      rw [hk, Nat.pow_succ]
      omega
    · rw [Nat.pow_succ]
      omega

end Integer

namespace Decimal

open Binary64 (IsDouble Within below minExponent signed toRat? of_toRat?)

variable {mantissa : Nat} {exponent : Int} {decimal : Scaled} {value : ℚ}

/-- How many digits of a decimal stand before its point; zeros behind the point count as less than
none. -/
def Scaled.point (decimal : Scaled) : Int :=
  (Integer.digits decimal.digits).length + decimal.exponent

theorem Scaled.place (hd : decimal.digits ≠ 0) :
    (10 : ℚ) ^ (decimal.point - 1) ≤ decimal.toRat ∧ decimal.toRat < 10 ^ decimal.point := by
  obtain ⟨hl, hu⟩ := Integer.le_length_digits hd
  have hpos := List.length_pos_iff.mpr (Integer.digits_ne_nil decimal.digits)
  obtain ⟨k, hk⟩ : ∃ k, (Integer.digits decimal.digits).length = k + 1 :=
    ⟨_, (Nat.sub_add_cancel hpos).symm⟩
  rw [hk, Nat.add_sub_cancel] at hl
  rw [hk] at hu
  have hl' : (10 : ℚ) ^ (k : Int) ≤ decimal.digits := by exact_mod_cast hl
  have hu' : (decimal.digits : ℚ) < 10 ^ (k + 1 : Int) := by exact_mod_cast hu
  have hp : (0 : ℚ) < 10 ^ decimal.exponent := by positivity
  rw [Scaled.toRat, Scaled.point, hk]
  refine ⟨?_, ?_⟩
  · calc (10 : ℚ) ^ (((k + 1 : Nat) : Int) + decimal.exponent - 1)
        = 10 ^ (k : Int) * 10 ^ decimal.exponent := by
          rw [← zpow_add₀ (by norm_num)]
          congr 1
          push_cast
          ring
      _ ≤ decimal.digits * 10 ^ decimal.exponent := by gcongr
  · calc (decimal.digits : ℚ) * 10 ^ decimal.exponent
        < 10 ^ (k + 1 : Int) * 10 ^ decimal.exponent := by gcongr
      _ = 10 ^ (((k + 1 : Nat) : Int) + decimal.exponent) := by
          rw [← zpow_add₀ (by norm_num)]
          push_cast
          rfl

theorem Scaled.lt_point_iff (hd : decimal.digits ≠ 0) (place : Int) :
    place < decimal.point ↔ (10 : ℚ) ^ place ≤ decimal.toRat := by
  obtain ⟨hl, hu⟩ := Scaled.place hd
  constructor
  · exact fun h => (zpow_le_zpow_right₀ (by norm_num) (by omega)).trans hl
  · intro h
    exact (zpow_lt_zpow_iff_right₀ (by norm_num)).mp (h.trans_lt hu)

-- ---------------------------------------------------------------------------
-- A ten-thousandth
-- ---------------------------------------------------------------------------

def tenThousandth : Nat := 7378697629483821

theorem shortest_tenThousandth : shortest tenThousandth (-66) = ⟨1, -4⟩ := by decide +kernel

theorem tenThousandth_bounds :
    ((tenThousandth : ℚ) - 1 / 2) * 2 ^ (-66 : Int) < 1 / 10000 ∧
      (1 / 10000 : ℚ) < tenThousandth * 2 ^ (-66 : Int) := by
  norm_num [tenThousandth]

theorem le_iff_of_high_lt {bound : ℚ} (hx : IsDouble mantissa exponent) (hm : mantissa ≠ 0)
    (h : ((mantissa : ℚ) + 1 / 2) * 2 ^ exponent < bound) :
    bound ≤ (shortest mantissa exponent).toRat ↔ bound ≤ mantissa * 2 ^ exponent := by
  obtain ⟨hw, -⟩ := within_shortest hx hm
  refine iff_of_false (not_le.mpr (hw.high.trans_lt h)) (not_le.mpr (lt_of_le_of_lt ?_ h))
  gcongr
  linarith

theorem le_iff_of_le_low {bound : ℚ} (hx : IsDouble mantissa exponent) (hm : mantissa ≠ 0)
    (h : bound ≤ (mantissa - below mantissa exponent) * 2 ^ exponent) :
    bound ≤ (shortest mantissa exponent).toRat ↔ bound ≤ mantissa * 2 ^ exponent := by
  obtain ⟨hw, -⟩ := within_shortest hx hm
  refine iff_of_true (h.trans hw.low) (h.trans ?_)
  have hnonneg : 0 ≤ below mantissa exponent := by
    rw [below]
    split <;> norm_num
  gcongr
  linarith

/-- A double and its shortest decimal lie on one side of a ten-thousandth. -/
theorem le_shortest_iff (hx : IsDouble mantissa exponent) (hm : mantissa ≠ 0) :
    (1 / 10000 : ℚ) ≤ (shortest mantissa exponent).toRat ↔
      (1 / 10000 : ℚ) ≤ mantissa * 2 ^ exponent := by
  obtain ⟨hlow, hhigh⟩ := tenThousandth_bounds
  have hb := Binary64.below_le mantissa exponent
  rcases lt_trichotomy exponent (-66) with he | rfl | he
  · -- The double is less than half as large.
    have hlt : (mantissa : ℚ) + 1 / 2 ≤ 2 ^ 53 := by
      have : (mantissa + 1 : ℚ) ≤ 2 ^ 53 := by exact_mod_cast hx.lt
      linarith
    refine le_iff_of_high_lt hx hm ?_
    calc ((mantissa : ℚ) + 1 / 2) * 2 ^ exponent ≤ 2 ^ 53 * 2 ^ exponent := by gcongr
      _ ≤ 2 ^ 53 * 2 ^ (-67 : Int) := by
          gcongr
          · norm_num
          · omega
      _ < 1 / 10000 := by norm_num
  · rcases lt_trichotomy mantissa tenThousandth with h | rfl | h
    · have hle : (mantissa : ℚ) + 1 ≤ tenThousandth := by exact_mod_cast h
      refine le_iff_of_high_lt hx hm ?_
      calc ((mantissa : ℚ) + 1 / 2) * 2 ^ (-66 : Int)
          ≤ (tenThousandth - 1 / 2) * 2 ^ (-66 : Int) := by
            gcongr
            linarith
        _ < 1 / 10000 := hlow
    · rw [shortest_tenThousandth]
      exact iff_of_true (by norm_num [Scaled.toRat]) hhigh.le
    · have hle : (tenThousandth : ℚ) + 1 ≤ mantissa := by exact_mod_cast h
      refine le_iff_of_le_low hx hm ?_
      calc (1 / 10000 : ℚ) ≤ tenThousandth * 2 ^ (-66 : Int) := hhigh.le
        _ ≤ (mantissa - below mantissa (-66)) * 2 ^ (-66 : Int) := by
            gcongr
            linarith
  · -- The double is larger than that, and so is its interval.
    have hge : (2 : ℚ) ^ 52 ≤ mantissa := by
      exact_mod_cast hx.full (lt_trans (by decide) he)
    refine le_iff_of_le_low hx hm ?_
    calc (1 / 10000 : ℚ) ≤ (2 ^ 52 - 1 / 2) * 2 ^ (-65 : Int) := by norm_num
      _ ≤ (2 ^ 52 - 1 / 2) * 2 ^ exponent := by
          gcongr
          · norm_num
          · omega
      _ ≤ (mantissa - below mantissa exponent) * 2 ^ exponent := by gcongr

theorem point_shortest_le (hx : IsDouble mantissa exponent) (hm : mantissa ≠ 0)
    (h : (mantissa * 2 ^ exponent : ℚ) < 1) : (shortest mantissa exponent).point ≤ 16 := by
  have hone : (1 : ℚ) ≤ mantissa := by exact_mod_cast Nat.one_le_iff_ne_zero.mpr hm
  have hlt : (shortest mantissa exponent).toRat < 10 ^ (16 : Int) :=
    calc (shortest mantissa exponent).toRat ≤ (mantissa + 1 / 2) * 2 ^ exponent :=
          (within_shortest hx hm).1.high
      _ ≤ (2 * mantissa) * 2 ^ exponent := by
          gcongr
          linarith
      _ = 2 * (mantissa * 2 ^ exponent) := mul_assoc _ _ _
      _ < 10 ^ (16 : Int) := by
          norm_num
          linarith
  rw [← not_lt, Scaled.lt_point_iff (shortest_digits_ne_zero hx hm)]
  exact not_le.mpr hlt

-- ---------------------------------------------------------------------------
-- Notations
-- ---------------------------------------------------------------------------

theorem e_not_mem_digits {text : Text} (h : ∀ c ∈ text, Text.isAsciiDigit c = true) :
    'e' ∉ text := fun he => absurd (h _ he) (by decide)

theorem Numeral.IsDouble.e_mem_iff {numeral : Numeral} (h : numeral.IsDouble) :
    'e' ∈ numeral.magnitude ↔ numeral.exponent ≠ none := by
  have hfraction : 'e' ∉ fractionText numeral.fraction := by
    rw [fractionText]
    split
    · exact List.not_mem_nil
    · simpa using e_not_mem_digits h.fraction
  simp only [Numeral.magnitude, List.mem_append, e_not_mem_digits h.whole.digit, hfraction,
    false_or]
  cases numeral.exponent with
  | none => simp [exponentText]
  | some part => simp [exponentText]

theorem Scaled.e_mem_text_iff (decimal : Scaled) :
    'e' ∈ decimal.text ↔ ¬ (-4 < decimal.point ∧ decimal.point ≤ 16) := by
  have hdigits : 'e' ∉ Integer.digits decimal.digits :=
    e_not_mem_digits (Integer.isAsciiDigit_of_mem_digits _)
  have hzeros (count : Nat) : 'e' ∉ List.replicate count '0' :=
    e_not_mem_digits (isAsciiDigit_zeros count)
  rw [Scaled.text, ← Scaled.point]
  split
  · next h =>
    refine iff_of_false ?_ (not_not.mpr h)
    simp only [positional]
    split
    · simp [hdigits, hzeros]
    · split
      · simp [hdigits, hzeros]
      · simp only [List.mem_append, List.mem_singleton, Char.reduceEq, or_false, not_or]
        exact ⟨fun h => hdigits (List.mem_of_mem_take h), fun h => hdigits (List.mem_of_mem_drop h)⟩
  · next h => exact iff_of_true (by simp [exponential]) h

end Decimal

-- ---------------------------------------------------------------------------
-- Numbers from zero to one
-- ---------------------------------------------------------------------------

namespace Number

open Binary64 (fraction shape)

variable {alpha other : Number} {x : Float} {value : ℚ} {negative : Bool} {mantissa : Nat}
  {exponent : Int}

theorem exists_double (h : alpha.toRat? = some value) (hl : 0 ≤ value) (hu : value ≤ 1) :
    ∃ x, alpha.text = (Number.float x).text ∧ Binary64.toRat? x = some value := by
  cases alpha with
  | float x => exact ⟨x, rfl, h⟩
  | int n =>
    obtain rfl : (n : ℚ) = value := Option.some.inj h
    have hn : 0 ≤ n ∧ n ≤ 1 := ⟨by exact_mod_cast hl, by exact_mod_cast hu⟩
    obtain rfl | rfl : n = 0 ∨ n = 1 := by omega
    · have hd : Binary64.shape (Binary64.nearest false 0 1) = .finite false 0 Binary64.minExponent := by
        decide +kernel
      exact ⟨_, rfl, by simpa [Binary64.signed] using Binary64.toRat?_of_shape hd⟩
    · have hd : Binary64.shape (Binary64.nearest false 1 1) = .finite false (twoTo 52) (-52) := by
        decide +kernel
      refine ⟨_, rfl, ?_⟩
      rw [Int.cast_one]
      exact (Binary64.toRat?_of_shape hd).trans (by norm_num [Binary64.signed, twoTo])

theorem fraction_spec (mantissa : Nat) (exponent : Int) :
    0 < (fraction mantissa exponent).2 ∧
      ((fraction mantissa exponent).1 / (fraction mantissa exponent).2 : ℚ) =
        mantissa * 2 ^ exponent := by
  refine ⟨Binary64.twoTo_pos _, ?_⟩
  rw [Binary64.zpow_eq_div, fraction, Nat.cast_mul, Binary64.cast_twoTo, Binary64.cast_twoTo,
    mul_div_assoc]

theorem whole?_of_shape {k : Nat} (hs : shape x = .finite negative mantissa exponent)
    (h : (mantissa : ℚ) * 2 ^ exponent = k) :
    whole? x = some (if negative then -(k : Int) else k) := by
  obtain ⟨hpos, hquot⟩ := fraction_spec mantissa exponent
  rw [h, div_eq_iff (by exact_mod_cast hpos.ne')] at hquot
  have hnum : (fraction mantissa exponent).1 = k * (fraction mantissa exponent).2 := by
    exact_mod_cast hquot
  simp [whole?, hs, hnum, Nat.mul_div_cancel _ hpos]

theorem whole?_of_lt (hs : shape x = .finite negative mantissa exponent) (hm : mantissa ≠ 0)
    (h : (mantissa * 2 ^ exponent : ℚ) < 1) : whole? x = none := by
  obtain ⟨hpos, hquot⟩ := fraction_spec mantissa exponent
  rw [← hquot, div_lt_one (by exact_mod_cast hpos), Nat.cast_lt] at h
  have hne : (fraction mantissa exponent).1 ≠ 0 :=
    Nat.mul_ne_zero hm (Binary64.twoTo_pos _).ne'
  simp [whole?, hs, Nat.mod_eq_of_lt h, hne]

theorem text_float (x : Float) : (Number.float x).text = .ok (match whole? x with
    | some n => Integer.text n
    | none => Decimal.floatText x) := by
  simp only [Number.text, Number.toFloat, bind, Except.bind, pure, Except.pure]
  cases whole? x <;> rfl

theorem text_of_unit (h : Binary64.toRat? x = some value) (hl : 0 ≤ value) (hu : value ≤ 1) :
    (∃ n : Nat, n ≤ 1 ∧ value = n ∧ (Number.float x).text = .ok (Integer.digits n)) ∨
      ∃ mantissa exponent, shape x = .finite false mantissa exponent ∧ mantissa ≠ 0 ∧
        value = mantissa * 2 ^ exponent ∧ value < 1 ∧
        (Number.float x).text = .ok (Decimal.shortest mantissa exponent).text := by
  obtain ⟨negative, mantissa, exponent, hs, rfl⟩ := Binary64.of_toRat? h
  obtain ⟨hv, hn⟩ := Binary64.signed_of_nonneg hl
  rw [hv] at hu ⊢
  rw [text_float]
  rcases Nat.eq_zero_or_pos mantissa with rfl | hm
  · have hwhole := @whole?_of_shape _ _ _ _ 0 hs (by simp)
    exact .inl ⟨0, by decide, by simp, by rw [hwhole]; cases negative <;> rfl⟩
  · obtain rfl : negative = false := Bool.eq_false_iff.mpr fun hneg => hm.ne' (hn hneg)
    rcases hu.eq_or_lt with h1 | h1
    · have hwhole := @whole?_of_shape _ _ _ _ 1 hs (by simpa using h1)
      exact .inl ⟨1, by decide, by simpa using h1, by rw [hwhole]; rfl⟩
    · refine .inr ⟨mantissa, exponent, hs, hm.ne', rfl, h1, ?_⟩
      rw [whole?_of_lt hs hm.ne' h1]
      simp [Decimal.floatText, hs, hm.ne']

theorem text_congr (h : alpha.toRat? = some value) (h' : other.toRat? = some value) (hl : 0 ≤ value)
    (hu : value ≤ 1) : alpha.text = other.text := by
  obtain ⟨x, hx, hxv⟩ := exists_double h hl hu
  obtain ⟨y, hy, hyv⟩ := exists_double h' hl hu
  rw [hx, hy]
  by_cases hv : value = 0
  · -- Zero is a double of either sign.
    have hzero : ∀ z, Binary64.toRat? z = some value →
        (Number.float z).text = .ok (Integer.digits 0) := by
      intro z hz
      rcases text_of_unit hz hl hu with ⟨n, -, hn, ht⟩ | ⟨m, e, -, hm, hme, -, -⟩
      · obtain rfl : n = 0 := by exact_mod_cast hn.symm.trans hv
        exact ht
      · exact absurd (hme.symm.trans hv) (by positivity)
    rw [hzero x hxv, hzero y hyv]
  · rw [Binary64.eq_of_toRat? hv hxv hyv]

/-- The text of a number from zero to one is that of a numeral of the number. The numeral has an
exponent when the number lies between zero and a ten-thousandth. -/
theorem exists_numeral (h : alpha.toRat? = some value) (hl : 0 ≤ value) (hu : value ≤ 1) :
    ∃ numeral : Decimal.Numeral, alpha.text = .ok numeral.magnitude ∧
      numeral.negative = false ∧ Integer.IsWhole numeral.whole ∧
      (∀ c ∈ numeral.fraction, Text.isAsciiDigit c = true) ∧
      Binary64.toRat? numeral.value = some value ∧
      (numeral.exponent = none ↔ value = 0 ∨ 1 / 10000 ≤ value) := by
  obtain ⟨x, hx, hxv⟩ := exists_double h hl hu
  rw [hx]
  rcases text_of_unit hxv hl hu with ⟨n, hn, rfl, ht⟩ | ⟨m, e, hs, hm, hv, h1, ht⟩
  · refine ⟨⟨false, Integer.digits n, [], none⟩, ?_, rfl, Integer.isWhole_digits n, nofun, ?_, ?_⟩
    · simpa [Decimal.Numeral.magnitude, Decimal.fractionText, Decimal.exponentText] using ht
    · have hvalue : Decimal.Numeral.value ⟨false, Integer.digits n, [], none⟩ =
          Decimal.toFloat false ⟨n, 0⟩ := by
        simp [Decimal.Numeral.value, Integer.digitsValue_digits]
      have hshape : Binary64.shape (Decimal.toFloat false ⟨0, 0⟩) = Binary64.shape 0.0 ∧
          Binary64.shape (Decimal.toFloat false ⟨1, 0⟩) = Binary64.shape 1.0 := by decide +kernel
      rw [hvalue]
      obtain rfl | rfl : n = 0 ∨ n = 1 := by omega
      · rw [Binary64.toRat?, hshape.1, ← Binary64.toRat?, Binary64.toRat?_zero]
        simp
      · rw [Binary64.toRat?, hshape.2, ← Binary64.toRat?, Binary64.toRat?_one]
        simp
    · obtain rfl | rfl : n = 0 ∨ n = 1 := by omega
      · simp
      · norm_num
  · have hx := (Binary64.bits_of_shape hs).1
    have hd := Decimal.shortest_digits_ne_zero hx hm
    obtain ⟨numeral, hn, hw⟩ := Decimal.exists_writes false (Decimal.shortest m e) hd
    have hexp := (Decimal.within_shortest hx hm).2
    refine ⟨numeral, by rw [ht, hw.text], hn, hw.whole, hw.fraction, ?_, ?_⟩
    · have hvalue : numeral.value = Decimal.toFloat false numeral.scaled := by
        rw [← hn]
        rfl
      have hscale : -400 ≤ numeral.scaled.exponent := by
        rcases hw.scale with h | h <;> omega
      rw [hvalue, Decimal.toFloat_shortest hs hm hscale hw.value, hxv]
    · have hpos : (0 : ℚ) < m * 2 ^ e := by positivity
      have hplace := Decimal.point_shortest_le hx hm (hv ▸ h1)
      rw [← not_iff_not, ← Ne, ← hw.e_mem_iff, hw.text, Decimal.Scaled.e_mem_text_iff,
        not_iff_not, and_iff_left hplace, Decimal.Scaled.lt_point_iff hd, hv,
        or_iff_right hpos.ne', ← Decimal.le_shortest_iff hx hm]
      norm_num

end Number

end Retheme
