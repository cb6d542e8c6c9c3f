import Mathlib
import Retheme.Number
import Retheme.Proofs.Number.Bits

/-!
# Doubles as numbers

A finite double stands for a number, and finite doubles compare as their
numbers do: the exponents decide, and the mantissas where the exponents are
equal. The double that is no number has no order, not even with itself. A
decimal never reads as it, and a text does only by its name.
-/

namespace Retheme.Binary64

open Float.Model (UnpackedFloat)
open Float.Model.UnpackedFloat (Sign)

variable {x y : Float} {negative other : Bool} {m n mantissa : Nat} {e f exponent : Int} {value : ℚ}

-- ---------------------------------------------------------------------------
-- Unpacked doubles
-- ---------------------------------------------------------------------------

def signOf (negative : Bool) : Sign := if negative then .negative else .positive

def Shape.unpacked : Shape → UnpackedFloat
  | .finite negative mantissa exponent =>
    if h : 0 < mantissa then .finite (signOf negative) mantissa exponent h
    else .zero (signOf negative)
  | .infinite negative => .infinity (signOf negative)
  | .nan => .notANumber

theorem unpackMantissa_toNat (bits : UInt64) :
    (@UnpackedFloat.unpackMantissa .binary64 bits.toBitVec).toNat = bits.toNat % twoTo 52 := by
  rw [UnpackedFloat.unpackMantissa_def, BitVec.extractLsb'_toNat, Nat.shiftRight_zero]
  rfl

theorem unpackExponent_toNat (bits : UInt64) :
    (@UnpackedFloat.unpackExponent .binary64 bits.toBitVec).toNat =
      bits.toNat / twoTo 52 % twoTo 11 := by
  rw [UnpackedFloat.unpackExponent_def, BitVec.extractLsb'_toNat, Nat.shiftRight_eq_div_pow]
  rfl

theorem ofBitVec_unpackSign (bits : UInt64) :
    Sign.ofBitVec (@UnpackedFloat.unpackSign .binary64 bits.toBitVec) =
      signOf (bits.toNat / twoTo 63 == 1) := by
  have hbit : bits.toNat / twoTo 63 < 2 := Nat.div_lt_of_lt_mul bits.toNat_lt
  have hsign : (@UnpackedFloat.unpackSign .binary64 bits.toBitVec).toNat =
      bits.toNat / twoTo 63 := by
    rw [UnpackedFloat.unpackSign_def, BitVec.extractLsb'_toNat, Nat.shiftRight_eq_div_pow]
    exact Nat.mod_eq_of_lt hbit
  rw [← hsign]
  rcases BitVec.eq_zero_or_eq_one (@UnpackedFloat.unpackSign .binary64 bits.toBitVec) with h | h <;>
    rw [h] <;> rfl

theorem unpackExponent_eq_iff (bits : UInt64) (exponent : BitVec 11) :
    @UnpackedFloat.unpackExponent .binary64 bits.toBitVec = exponent ↔
      bits.toNat / twoTo 52 % twoTo 11 = exponent.toNat := by
  rw [← unpackExponent_toNat]
  exact BitVec.toNat_inj.symm

theorem unpackMantissa_eq_zero_iff (bits : UInt64) :
    @UnpackedFloat.unpackMantissa .binary64 bits.toBitVec = 0#_ ↔
      bits.toNat % twoTo 52 = 0 := by
  rw [← unpackMantissa_toNat]
  exact BitVec.toNat_inj.symm

theorem unpack_eq (x : Float) : x.toModel.unpack = (shape x).unpacked := by
  have hunpack : x.toModel.unpack = @UnpackedFloat.unpack .binary64 x.toBits.toBitVec := rfl
  have hone : (1#1 ++ @UnpackedFloat.unpackMantissa .binary64 x.toBits.toBitVec).toNat =
      twoTo 52 + x.toBits.toNat % twoTo 52 := by
    rw [BitVec.toNat_append, unpackMantissa_toNat]
    exact (Nat.two_pow_add_eq_or_of_lt (Nat.mod_lt _ (twoTo_pos 52)) 1).symm
  have hones : _ ↔ x.toBits.toNat / twoTo 52 % twoTo 11 = 2047 :=
    unpackExponent_eq_iff x.toBits (-1#11)
  have hzeros : _ ↔ x.toBits.toNat / twoTo 52 % twoTo 11 = 0 :=
    unpackExponent_eq_iff x.toBits 0#11
  have hnone := unpackMantissa_eq_zero_iff x.toBits
  simp only [hunpack, UnpackedFloat.unpack, shape, shapeOfBits]
  simp only [ofBitVec_unpackSign, hones, hzeros, hnone, unpackMantissa_toNat,
    unpackExponent_toNat, hone]
  split
  · split <;> rfl
  · split
    · next hs =>
      rw [hs]
      split
      · next hm => simp [Shape.unpacked, hm]
      · next hm =>
        rw [Shape.unpacked, dif_pos (Nat.pos_of_ne_zero hm)]
        rfl
    · rw [Shape.unpacked, dif_pos (Nat.add_pos_left (twoTo_pos 52) _)]
      rfl

theorem toBits_ofBits {bits : UInt64} (h : shapeOfBits bits.toNat ≠ .nan) :
    (Float.ofBits bits).toBits = bits := by
  have hpack := @UnpackedFloat.pack_unpack .binary64 bits.toBitVec (by decide)
  have hnan : ¬ (@UnpackedFloat.isNaNBits .binary64 bits.toBitVec = true) := by
    rw [UnpackedFloat.isNaNBits, decide_eq_true_eq]
    rintro ⟨he, hm⟩
    rw [Ne, unpackMantissa_eq_zero_iff] at hm
    rw [unpackExponent_eq_iff] at he
    exact h ((if_pos he).trans (if_neg hm))
  rw [if_neg hnan] at hpack
  exact UInt64.toBitVec_inj.mp hpack


-- ---------------------------------------------------------------------------
-- The numbers of doubles
-- ---------------------------------------------------------------------------

def signed (negative : Bool) (mantissa : Nat) (exponent : Int) : ℚ :=
  if negative then -(mantissa * 2 ^ exponent) else mantissa * 2 ^ exponent

def toRat? (x : Float) : Option ℚ :=
  match shape x with
  | .finite negative mantissa exponent => some (signed negative mantissa exponent)
  | _ => none

theorem of_toRat? (h : toRat? x = some value) : ∃ negative mantissa exponent,
    shape x = .finite negative mantissa exponent ∧ signed negative mantissa exponent = value := by
  rw [toRat?] at h
  split at h
  · next hs => exact ⟨_, _, _, hs, Option.some.inj h⟩
  · cases h

theorem toRat?_of_shape (h : shape x = .finite negative mantissa exponent) :
    toRat? x = some (signed negative mantissa exponent) := by
  rw [toRat?, h]

theorem of_signed_eq (h : signed negative m e = signed other n f) (hv : signed negative m e ≠ 0) :
    negative = other ∧ (m : ℚ) * 2 ^ e = n * 2 ^ f := by
  have hpm : (0 : ℚ) ≤ m * 2 ^ e := by positivity
  have hpn : (0 : ℚ) ≤ n * 2 ^ f := by positivity
  cases negative <;> cases other <;>
    simp only [signed, if_true, if_false, Bool.false_eq_true] at h hv
  · exact ⟨rfl, h⟩
  · exact absurd (by linarith) hv
  · exact absurd (by linarith) hv
  · exact ⟨rfl, neg_inj.mp h⟩

theorem signed_of_nonneg {negative : Bool} {mantissa : Nat} {exponent : Int}
    (h : 0 ≤ signed negative mantissa exponent) :
    signed negative mantissa exponent = mantissa * 2 ^ exponent ∧
      (negative = true → mantissa = 0) := by
  have hp : (0 : ℚ) < 2 ^ exponent := by positivity
  cases negative with
  | false => exact ⟨rfl, nofun⟩
  | true =>
    rw [signed, if_pos rfl, neg_nonneg] at h
    have hz : mantissa = 0 := by
      by_contra hm
      have : (0 : ℚ) < mantissa := by exact_mod_cast Nat.pos_of_ne_zero hm
      exact absurd h (not_le.mpr (by positivity))
    simp [signed, hz]

theorem shape_zero : shape 0.0 = .finite false 0 minExponent := by
  decide +kernel

theorem shape_one : shape 1.0 = .finite false (twoTo 52) (-52) := by decide +kernel

theorem toRat?_zero : toRat? 0.0 = some 0 := by
  rw [toRat?, shape_zero]
  simp [signed]

theorem toRat?_one : toRat? 1.0 = some 1 := by
  rw [toRat?, shape_one]
  norm_num [signed, twoTo]

theorem lt_of_exponent_lt (hm : IsDouble m e) (hn : IsDouble n f) (h : e < f) :
    (m : ℚ) * 2 ^ e < n * 2 ^ f := by
  have hlt : (m : ℚ) < 2 ^ (53 : Int) := by exact_mod_cast hm.lt
  have hge : (2 : ℚ) ^ (52 : Int) ≤ n := by exact_mod_cast hn.full (hm.ge.trans_lt h)
  calc (m : ℚ) * 2 ^ e < 2 ^ (53 : Int) * 2 ^ e := by gcongr
    _ = 2 ^ (53 + e) := (zpow_add₀ two_ne_zero _ _).symm
    _ ≤ 2 ^ (52 + f) := zpow_le_zpow_right₀ (by norm_num) (by omega)
    _ = 2 ^ (52 : Int) * 2 ^ f := zpow_add₀ two_ne_zero _ _
    _ ≤ n * 2 ^ f := by gcongr

/-- The exponents decide, and the mantissas where the exponents are equal. -/
theorem compare_eq (hm : IsDouble m e) (hn : IsDouble n f) :
    (compare e f).then (compare m n) = compare ((m : ℚ) * 2 ^ e) (n * 2 ^ f) := by
  rcases lt_trichotomy e f with h | rfl | h
  · rw [compare_lt_iff_lt.mpr h, compare_lt_iff_lt.mpr (lt_of_exponent_lt hm hn h)]
    rfl
  · have hp : (0 : ℚ) < 2 ^ e := by positivity
    rw [compare_eq_iff_eq.mpr rfl, Ordering.eq_then]
    rcases lt_trichotomy m n with h | rfl | h
    · rw [compare_lt_iff_lt.mpr h, compare_lt_iff_lt.mpr (by gcongr)]
    · rw [compare_eq_iff_eq.mpr rfl, compare_eq_iff_eq.mpr rfl]
    · rw [compare_gt_iff_gt.mpr h, compare_gt_iff_gt.mpr (by gcongr)]
  · rw [compare_gt_iff_gt.mpr h, compare_gt_iff_gt.mpr (lt_of_exponent_lt hn hm h)]
    rfl

theorem lt_iff_compare : x < y ↔ (shape x).unpacked.compare (shape y).unpacked = some .lt := by
  rw [← unpack_eq, ← unpack_eq, ← beq_iff_eq]
  exact ⟨of_decide_eq_true, decide_eq_true⟩

theorem unpacked_zero (negative : Bool) (exponent : Int) :
    (Shape.finite negative 0 exponent).unpacked = .zero (signOf negative) := rfl

theorem unpacked_of_pos (h : 0 < mantissa) :
    (Shape.finite negative mantissa exponent).unpacked =
      .finite (signOf negative) mantissa exponent h := dif_pos h

theorem lt_iff_of_finite (hx : shape x = .finite negative m e) (hy : shape y = .finite other n f) :
    x < y ↔ signed negative m e < signed other n f := by
  obtain ⟨hm, -⟩ := bits_of_shape hx
  obtain ⟨hn, -⟩ := bits_of_shape hy
  have hpe : (0 : ℚ) < 2 ^ e := by positivity
  have hpf : (0 : ℚ) < 2 ^ f := by positivity
  rw [lt_iff_compare, hx, hy]
  -- A zero has no exponent to compare, and of two signs the comparison goes by the sign.
  rcases Nat.eq_zero_or_pos m with rfl | hm' <;> rcases Nat.eq_zero_or_pos n with rfl | hn'
  · simp [unpacked_zero, UnpackedFloat.compare, signed]
  · cases other <;>
      simp [unpacked_zero, unpacked_of_pos hn', UnpackedFloat.compare, signOf, signed, hn', hpf, hpf.le]
  · cases negative <;>
      simp [unpacked_zero, unpacked_of_pos hm', UnpackedFloat.compare, signOf, signed, hm', hpe, hpe.le]
  · have hpm : (0 : ℚ) < m * 2 ^ e := by positivity
    have hpn : (0 : ℚ) < n * 2 ^ f := by positivity
    rw [unpacked_of_pos hm', unpacked_of_pos hn']
    cases negative <;> cases other <;>
      simp only [UnpackedFloat.compare, signOf, signed, if_true, if_false, Bool.false_eq_true,
        compare_eq hm hn, Option.some.injEq, Ordering.swap_eq_lt, compare_gt_iff_gt,
        compare_lt_iff_lt, neg_lt_neg_iff, reduceCtorEq, false_iff, true_iff, not_lt]
    · linarith
    · linarith

theorem eq_of_toRat? (hv : value ≠ 0) (hx : toRat? x = some value) (hy : toRat? y = some value) :
    x = y := by
  obtain ⟨negative, m, e, hs, hm⟩ := of_toRat? hx
  obtain ⟨other, n, f, ht, hn⟩ := of_toRat? hy
  obtain ⟨hdm, hbx⟩ := bits_of_shape hs
  obtain ⟨hdn, hby⟩ := bits_of_shape ht
  obtain ⟨rfl, hmagnitude⟩ := of_signed_eq (hm.trans hn.symm) (hm ▸ hv)
  obtain rfl : e = f := by
    rcases lt_trichotomy e f with h | h | h
    · exact absurd hmagnitude (lt_of_exponent_lt hdm hdn h).ne
    · exact h
    · exact absurd hmagnitude (lt_of_exponent_lt hdn hdm h).ne'
  obtain rfl : m = n := by
    have := mul_right_cancel₀ (by positivity) hmagnitude
    exact_mod_cast this
  rw [← Float.toBits_inj, ← UInt64.toNat_inj, hbx, hby]

/-- Finite doubles compare as the numbers that they stand for. -/
theorem lt_iff_toRat {a b : ℚ} (hx : toRat? x = some a) (hy : toRat? y = some b) :
    x < y ↔ a < b := by
  obtain ⟨negative, m, e, hs, rfl⟩ := of_toRat? hx
  obtain ⟨other, n, f, ht, rfl⟩ := of_toRat? hy
  exact lt_iff_of_finite hs ht

-- ---------------------------------------------------------------------------
-- The double that is no number
-- ---------------------------------------------------------------------------

theorem shape_nan : shape nan = .nan := by decide +kernel

theorem shape_infinity_ne_nan (negative : Bool) :
    shape (if negative then negativeInfinity else positiveInfinity) ≠ .nan := by
  cases negative <;> decide +kernel

theorem compare_eq_none_iff (a b : UnpackedFloat) :
    a.compare b = none ↔ a = .notANumber ∨ b = .notANumber := by
  rw [UnpackedFloat.compare.eq_def]
  rcases a with s | _ | s | ⟨s, m, e, hm⟩ <;> rcases b with t | _ | t | ⟨t, n, f, hn⟩ <;>
    try cases s <;> try cases t
  all_goals simp

theorem unpack_eq_notANumber_iff (x : Float) :
    x.toModel.unpack = .notANumber ↔ shape x = .nan := by
  rw [unpack_eq]
  cases shape x with
  | finite negative mantissa exponent =>
    rw [Shape.unpacked]
    split <;> simp
  | infinite => simp [Shape.unpacked]
  | nan => simp [Shape.unpacked]

theorem le_of_ne_nan (hx : shape x ≠ .nan) (hy : shape y ≠ .nan) (h : ¬ y < x) : x ≤ y := by
  rw [Ne, ← unpack_eq_notANumber_iff] at hx hy
  obtain ⟨order, ho⟩ := Option.ne_none_iff_exists'.mp fun hn =>
    ((compare_eq_none_iff x.toModel.unpack y.toModel.unpack).mp hn).elim hx hy
  have hle : (x.toModel.unpack.compare y.toModel.unpack).any (·.isLE) = true := by
    rw [ho]
    cases order with
    | lt => rfl
    | eq => rfl
    | gt =>
      refine absurd (lt_iff_compare.mpr ?_) h
      rw [← unpack_eq, ← unpack_eq, compare_swap, ho]
      rfl
  exact decide_eq_true hle

theorem ne_nan_of_le (h : x ≤ y) : shape x ≠ .nan ∧ shape y ≠ .nan := by
  have hle : (x.toModel.unpack.compare y.toModel.unpack).any (·.isLE) = true := of_decide_eq_true h
  rw [Ne, Ne, ← unpack_eq_notANumber_iff, ← unpack_eq_notANumber_iff, ← not_or,
    ← compare_eq_none_iff]
  intro hn
  rw [hn] at hle
  cases hle

-- ---------------------------------------------------------------------------
-- Numerals
-- ---------------------------------------------------------------------------

theorem shape_nearest_ne_nan (negative : Bool) (num den : Nat) :
    shape (nearest negative num den) ≠ .nan := by
  have h52 : twoTo 52 = 4503599627370496 := rfl
  have h63 : twoTo 63 = 9223372036854775808 := rfl
  have h11 : twoTo 11 = 2048 := rfl
  have hle : nearestBits num den ≤ 2047 * 4503599627370496 := by
    rw [nearestBits]
    split
    · omega
    · exact Nat.min_le_right _ _
  obtain ⟨bits, hb⟩ : ∃ bits, bits = nearestBits num den + if negative then twoTo 63 else 0 :=
    ⟨_, rfl⟩
  have hlt : bits < 2 ^ 64 := by
    rw [hb, h63]
    split <;> omega
  have hshape : shapeOfBits (UInt64.ofNat bits).toNat ≠ .nan := by
    rw [UInt64.toNat_ofNat_of_lt' hlt]
    simp only [shapeOfBits, h52, h11]
    split
    · next h =>
      have hz : bits % 4503599627370496 = 0 := by
        rw [h63] at hb
        split at hb <;> omega
      simp [hz]
    · split <;> simp
  rw [nearest, ← hb, shape, toBits_ofBits hshape]
  exact hshape

end Retheme.Binary64

namespace Retheme

def Number.toRat? : Number → Option ℚ
  | .int n => some n
  | .float x => Binary64.toRat? x

namespace Decimal

theorem shape_toFloat_ne_nan (negative : Bool) (decimal : Scaled) :
    Binary64.shape (toFloat negative decimal) ≠ .nan := by
  simp only [toFloat]
  split
  · exact Binary64.shape_nearest_ne_nan _ _ _
  · split
    · cases negative <;> decide +kernel
    · exact Binary64.shape_nearest_ne_nan _ _ _

/-- A text is the name of the double that is no number, in letters of any case. Blanks may stand
around it and a sign in front of it. -/
def NamesNan (text : Text) : Prop :=
  (readSign (stripNumeral text)).2.map Char.toLower = "nan".toList

instance (text : Text) : Decidable (NamesNan text) := inferInstanceAs (Decidable (_ = _))

theorem readFloat?_eq_nan_iff (text : Text) :
    readFloat? text = some Binary64.nan ↔ NamesNan text := by
  have hne {x : Float} (h : Binary64.shape x ≠ .nan) : x ≠ Binary64.nan := by
    rintro rfl
    exact h Binary64.shape_nan
  simp only [readFloat?, NamesNan]
  generalize (readSign (stripNumeral text)).2.map Char.toLower = name
  split
  · next hn =>
    refine iff_of_false ?_ ?_
    · exact fun h => hne (Binary64.shape_infinity_ne_nan _) (Option.some.inj h)
    · rintro rfl
      simp at hn
  · split
    · next hn => exact iff_of_true rfl hn
    · next hn =>
      refine iff_of_false ?_ hn
      split
      · nofun
      · split
        · exact fun h => hne (shape_toFloat_ne_nan _ _) (Option.some.inj h)
        · nofun

end Decimal

end Retheme
