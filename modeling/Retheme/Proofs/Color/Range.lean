import Mathlib
import Retheme.Color.Reader
import Retheme.Proofs.Function.Result
import Retheme.Proofs.Number.Comparison
import Retheme.Proofs.Text.HexDigit

/-!
# The range of colours

Whatever its notation, a text that is read as a colour has channels up to 255
and an alpha from 0 to 1. No field of a notation is the double that is no
number, so the alpha that is kept between 0 and 1 is a number.
-/

namespace Retheme.Color

open Binary64 (shape toRat?)
open Retheme.Function (of_bind_eq_ok of_map_eq_ok)

variable {text : Text} {color : Color} {x : Float} {value : ℚ}

structure InRange (color : Color) (alpha : ℚ) : Prop where
  red_le : color.red ≤ 255
  green_le : color.green ≤ 255
  blue_le : color.blue ≤ 255
  alpha_eq : color.alpha.toRat? = some alpha
  nonneg : 0 ≤ alpha
  le_one : alpha ≤ 1

-- ---------------------------------------------------------------------------
-- Alphas
-- ---------------------------------------------------------------------------

theorem clampFloat_of_unit (h : toRat? x = some value) (hl : 0 ≤ value) (hu : value ≤ 1) :
    clampFloat x = x := by
  have hlow : ¬ x < 0.0 := by
    rw [Binary64.lt_iff_toRat h Binary64.toRat?_zero]
    exact not_lt.mpr hl
  have hhigh : ¬ 1.0 < x := by
    rw [Binary64.lt_iff_toRat Binary64.toRat?_one h]
    exact not_lt.mpr hu
  rw [clampFloat, if_neg hlow, if_neg hhigh]

theorem exists_toRat?_clampFloat (hx : shape x ≠ .nan) :
    ∃ value, toRat? (clampFloat x) = some value ∧ 0 ≤ value ∧ value ≤ 1 := by
  cases hs : shape x with
  | nan => exact absurd hs hx
  | infinite negative =>
    have hlow : clampFloat Binary64.negativeInfinity = 0.0 := if_pos (by decide +kernel)
    have hhigh : clampFloat Binary64.positiveInfinity = 1.0 :=
      (if_neg (by decide +kernel)).trans (if_pos (by decide +kernel))
    rw [Binary64.eq_infinity_of_shape hs]
    cases negative with
    | true => exact ⟨0, by rw [if_pos rfl, hlow, Binary64.toRat?_zero], le_refl 0, zero_le_one⟩
    | false =>
      exact ⟨1, by rw [if_neg nofun, hhigh, Binary64.toRat?_one], zero_le_one, le_refl 1⟩
  | finite negative mantissa exponent =>
    have hv := Binary64.toRat?_of_shape hs
    rcases lt_or_ge (Binary64.signed negative mantissa exponent) 0 with hl | hl
    · have hlow : x < 0.0 := (Binary64.lt_iff_toRat hv Binary64.toRat?_zero).mpr hl
      rw [clampFloat, if_pos hlow]
      exact ⟨0, Binary64.toRat?_zero, le_refl 0, zero_le_one⟩
    · rcases lt_or_ge 1 (Binary64.signed negative mantissa exponent) with hu | hu
      · have hlow : ¬ x < 0.0 := by
          rw [Binary64.lt_iff_toRat hv Binary64.toRat?_zero]
          exact not_lt.mpr hl
        have hhigh : 1.0 < x := (Binary64.lt_iff_toRat Binary64.toRat?_one hv).mpr hu
        rw [clampFloat, if_neg hlow, if_pos hhigh]
        exact ⟨1, Binary64.toRat?_one, zero_le_one, le_refl 1⟩
      · rw [clampFloat_of_unit hv hl hu]
        exact ⟨_, hv, hl, hu⟩

def isUnit (x : Float) : Bool :=
  match shape x with
  | .finite negative mantissa exponent =>
    !negative && mantissa * twoTo exponent.toNat ≤ twoTo (-exponent).toNat
  | _ => false

theorem exists_toRat?_of_isUnit (h : isUnit x = true) :
    ∃ value, toRat? x = some value ∧ 0 ≤ value ∧ value ≤ 1 := by
  rw [isUnit] at h
  split at h
  · next negative mantissa exponent hs =>
    obtain ⟨rfl, hle⟩ : negative = false ∧
        mantissa * twoTo exponent.toNat ≤ twoTo (-exponent).toNat := by simpa using h
    refine ⟨mantissa * 2 ^ exponent, Binary64.toRat?_of_shape hs, by positivity, ?_⟩
    rw [Binary64.zpow_eq_div, ← mul_div_assoc, div_le_one (by positivity), ← Binary64.cast_twoTo,
      ← Binary64.cast_twoTo, ← Nat.cast_mul, Nat.cast_le]
    exact hle
  · cases h

theorem isUnit_byte : ∀ n < 256, isUnit (n.toFloat / 255.0) = true := by decide +kernel

theorem inRange_ofNumber (rgb : Nat) {alpha : Number} (ha : alpha.toRat? = some value)
    (hl : 0 ≤ value) (hu : value ≤ 1) : InRange (ofNumber rgb alpha) value where
  red_le := Nat.le_of_lt_succ (Nat.mod_lt _ (by decide))
  green_le := Nat.le_of_lt_succ (Nat.mod_lt _ (by decide))
  blue_le := Nat.le_of_lt_succ (Nat.mod_lt _ (by decide))
  alpha_eq := ha
  nonneg := hl
  le_one := hu

theorem inRange_opaque (rgb : Nat) : InRange (ofNumber rgb opaqueAlpha) 1 :=
  inRange_ofNumber rgb Binary64.toRat?_one zero_le_one (le_refl 1)

-- ---------------------------------------------------------------------------
-- Functional notation
-- ---------------------------------------------------------------------------

theorem channelOf_le {n : Nat} (h : channelOf x = .ok n) : n ≤ 255 := by
  obtain ⟨m, -, h⟩ := of_bind_eq_ok h
  cases h
  exact Nat.min_le_right _ _

theorem ofRgb_inRange {red green blue : Float} {alpha : Number}
    (h : ofRgb red green blue alpha = .ok color) (ha : alpha.toRat? = some value) (hl : 0 ≤ value)
    (hu : value ≤ 1) : InRange color value := by
  obtain ⟨r, hr, h⟩ := of_bind_eq_ok h
  obtain ⟨g, hg, h⟩ := of_bind_eq_ok h
  obtain ⟨b, hb, h⟩ := of_bind_eq_ok h
  cases h
  exact ⟨channelOf_le hr, channelOf_le hg, channelOf_le hb, ha, hl, hu⟩

theorem shape_readDecimal?_ne_nan {percent : Bool} {rest : Text}
    (h : readDecimal? percent text = some (x, rest)) : shape x ≠ .nan := by
  simp only [readDecimal?] at h
  split at h
  all_goals
    split at h
    · cases h
    · split at h <;> cases h <;> exact Decimal.shape_toFloat_ne_nan _ _

theorem shape_field_ne_nan {isFirst : Bool} {percents : List Bool} {fields : List Field}
    (h : readFields? isFirst percents text = some fields) :
    ∀ field ∈ fields, shape field.value ≠ .nan := by
  induction percents generalizing isFirst text fields with
  | nil => cases h
  | cons percent more ih =>
    simp only [readFields?] at h
    obtain ⟨⟨x, rest⟩, hd, h⟩ := Option.bind_eq_some_iff.mp h
    have hx := shape_readDecimal?_ne_nan hd
    split at h
    · cases h
      simpa using hx
    · obtain ⟨others, ho, rfl⟩ := Option.map_eq_some_iff.mp h
      simpa using ⟨hx, ih ho⟩
    · cases h

theorem number_eq {field : Field} (h : field.number = .ok x) : x = field.value := by
  rw [Field.number] at h
  split at h
  · exact (Except.ok.inj h).symm
  · cases h

theorem exists_alpha_of_field {field : Field} (hf : shape field.value ≠ .nan)
    (hx : field.number = .ok x) :
    ∃ alpha, (Number.float (clampFloat x)).toRat? = some alpha ∧ 0 ≤ alpha ∧ alpha ≤ 1 := by
  rw [number_eq hx]
  exact exists_toRat?_clampFloat hf

theorem ofHsl_inRange {hue saturation lightness : Float} {alpha : Number}
    (h : ofHsl hue saturation lightness alpha = .ok color) (ha : alpha.toRat? = some value)
    (hl : 0 ≤ value) (hu : value ≤ 1) : InRange color value := by
  rw [ofHsl] at h
  exact ofRgb_inRange h ha hl hu

theorem length_readFields? {isFirst : Bool} {percents : List Bool} {fields : List Field}
    (h : readFields? isFirst percents text = some fields) : fields.length = percents.length := by
  induction percents generalizing isFirst text fields with
  | nil => cases h
  | cons percent more ih =>
    simp only [readFields?] at h
    obtain ⟨_, -, h⟩ := Option.bind_eq_some_iff.mp h
    split at h
    · cases h
      rfl
    · obtain ⟨others, ho, rfl⟩ := Option.map_eq_some_iff.mp h
      rw [List.length_cons, ih ho]
      rfl
    · cases h

def fieldsBehind (text : Text) (name : String) (percents : List Bool) : Option (List Field) :=
  if name.toList.isPrefixOf text then readFields? true percents (text.drop name.toList.length)
  else none

theorem of_fieldsBehind {name : String} {percents : List Bool} {fields : List Field}
    (h : fieldsBehind text name percents = some fields) :
    fields.length = percents.length ∧ ∀ field ∈ fields, shape field.value ≠ .nan := by
  rw [fieldsBehind] at h
  split at h
  · exact ⟨length_readFields? h, shape_field_ne_nan h⟩
  · cases h

theorem three_fields (text : Text) (name : String) (p q r : Bool) :
    fieldsBehind text name [p, q, r] = none ∨
      ∃ a b c, fieldsBehind text name [p, q, r] = some [a, b, c] := by
  cases h : fieldsBehind text name [p, q, r] with
  | none => exact .inl rfl
  | some fields =>
    obtain ⟨a, b, c, rfl⟩ := List.length_eq_three.mp (of_fieldsBehind h).1
    exact .inr ⟨a, b, c, rfl⟩

theorem four_fields (text : Text) (name : String) (p q r s : Bool) :
    fieldsBehind text name [p, q, r, s] = none ∨
      ∃ a b c d, fieldsBehind text name [p, q, r, s] = some [a, b, c, d] ∧ shape d.value ≠ .nan := by
  cases h : fieldsBehind text name [p, q, r, s] with
  | none => exact .inl rfl
  | some fields =>
    obtain ⟨hlen, hnan⟩ := of_fieldsBehind h
    obtain ⟨a, b, c, d, rfl⟩ := List.length_eq_four.mp hlen
    exact .inr ⟨a, b, c, d, rfl, hnan d (by simp)⟩

theorem readFunction?_inRange (h : readFunction? text = .ok (some color)) :
    ∃ alpha, InRange color alpha := by
  rw [readFunction?] at h
  have hfields : (fun (name : String) (percents : List Bool) =>
    if name.toList.isPrefixOf text = true then
      readFields? true percents (text.drop name.toList.length)
    else none) = fieldsBehind text := rfl
  rw [hfields] at h
  rcases three_fields text "rgb(" false false false with hrgb | ⟨r, g, b, hrgb⟩
  · rcases four_fields text "rgba(" false false false false with hrgba | ⟨r, g, b, a, hrgba, ha⟩
    · rcases three_fields text "hsl(" false true true with hhsl | ⟨hue, s, l, hhsl⟩
      · rcases four_fields text "hsla(" false true true false with hhsla | ⟨hue, s, l, a, hhsla, ha⟩
        · simp only [hrgb, hrgba, hhsl, hhsla] at h
          cases h
        · simp only [hrgb, hrgba, hhsl, hhsla] at h
          obtain ⟨_, -, h⟩ := of_bind_eq_ok h
          obtain ⟨x, hx, h⟩ := of_bind_eq_ok h
          obtain ⟨_, hc, h⟩ := of_bind_eq_ok h
          cases h
          obtain ⟨alpha, hv, hl, hu⟩ := exists_alpha_of_field ha hx
          exact ⟨alpha, ofHsl_inRange hc hv hl hu⟩
      · simp only [hrgb, hrgba, hhsl] at h
        obtain ⟨_, -, h⟩ := of_bind_eq_ok h
        obtain ⟨_, hc, h⟩ := of_bind_eq_ok h
        cases h
        exact ⟨1, ofHsl_inRange hc Binary64.toRat?_one zero_le_one (le_refl 1)⟩
    · simp only [hrgb, hrgba] at h
      obtain ⟨_, -, h⟩ := of_bind_eq_ok h
      obtain ⟨_, -, h⟩ := of_bind_eq_ok h
      obtain ⟨_, -, h⟩ := of_bind_eq_ok h
      obtain ⟨x, hx, h⟩ := of_bind_eq_ok h
      obtain ⟨_, hc, h⟩ := of_bind_eq_ok h
      cases h
      obtain ⟨alpha, hv, hl, hu⟩ := exists_alpha_of_field ha hx
      exact ⟨alpha, ofRgb_inRange hc hv hl hu⟩
  · simp only [hrgb] at h
    obtain ⟨_, -, h⟩ := of_bind_eq_ok h
    obtain ⟨red, hr, h⟩ := of_bind_eq_ok h
    obtain ⟨_, -, h⟩ := of_bind_eq_ok h
    obtain ⟨green, hg, h⟩ := of_bind_eq_ok h
    obtain ⟨_, -, h⟩ := of_bind_eq_ok h
    obtain ⟨blue, hb, h⟩ := of_bind_eq_ok h
    cases h
    exact ⟨1, channelOf_le hr, channelOf_le hg, channelOf_le hb, Binary64.toRat?_one, zero_le_one,
      le_refl 1⟩

-- ---------------------------------------------------------------------------
-- Hexadecimal digits and names
-- ---------------------------------------------------------------------------

theorem hexNumber_lt (digits : Text) : Text.hexNumber digits < 16 ^ digits.length := by
  have hfold : ∀ total : Nat,
      digits.foldl (fun total c => 16 * total + (Text.hexValue? c).getD 0) total <
        (total + 1) * 16 ^ digits.length := by
    induction digits with
    | nil => simp
    | cons c rest ih =>
      intro total
      have hc : (Text.hexValue? c).getD 0 < 16 := by
        cases h : Text.hexValue? c with
        | none => decide
        | some n => exact (Text.hexValue?_range h).2
      refine (ih _).trans_le ?_
      have hstep : 16 * total + (Text.hexValue? c).getD 0 + 1 ≤ (total + 1) * 16 := by omega
      rw [List.length_cons, Nat.pow_succ', ← Nat.mul_assoc]
      exact Nat.mul_le_mul_right _ hstep
  simpa [Text.hexNumber] using hfold 0

theorem inRange_ofByte (rgb : Nat) {digits : Text} (h : digits.length ≤ 2) :
    ∃ alpha, InRange (ofNumber rgb (.float ((Text.hexNumber digits).toFloat / 255.0))) alpha := by
  have hlt : Text.hexNumber digits < 256 :=
    (hexNumber_lt digits).trans_le (Nat.pow_le_pow_right (by decide) h)
  obtain ⟨alpha, ha, hl, hu⟩ := exists_toRat?_of_isUnit (isUnit_byte _ hlt)
  exact ⟨alpha, inRange_ofNumber rgb ha hl hu⟩

theorem ofHexDigits?_inRange {digits : Text} (h : ofHexDigits? digits = some color) :
    ∃ alpha, InRange color alpha := by
  have hdoubled : (digits.flatMap fun c => [c, c]).length = 2 * digits.length := by
    simp [List.length_flatMap, Nat.mul_comm]
  simp only [ofHexDigits?] at h
  split at h
  · cases h
  · split at h <;> try cases h
    · exact ⟨1, inRange_opaque _⟩
    · exact ⟨1, inRange_opaque _⟩
    · next hlen =>
      refine inRange_ofByte _ ?_
      rw [if_pos (by omega), List.length_drop]
      omega
    · next hlen =>
      refine inRange_ofByte _ ?_
      rw [if_neg (by omega), List.length_drop]
      omega

theorem named?_inRange (h : named? text = some color) : ∃ alpha, InRange color alpha := by
  rw [named?] at h
  split at h
  · cases h
    exact ⟨1, inRange_opaque 0⟩
  · split at h
    · cases h
      exact ⟨0, inRange_ofNumber 0 (by simp [Number.toRat?]) (le_refl 0) zero_le_one⟩
    · obtain ⟨_, -, rfl⟩ := Option.map_eq_some_iff.mp h
      exact ⟨1, inRange_opaque _⟩

/-- What is read as a colour is in range. -/
theorem read?_inRange (h : read? text = .ok (some color)) : ∃ alpha, InRange color alpha := by
  rw [read?.eq_def] at h
  split at h
  · next hn =>
    cases h
    exact named?_inRange hn
  · exact ofHexDigits?_inRange (Except.ok.inj h)
  · exact readFunction?_inRange h

end Retheme.Color
