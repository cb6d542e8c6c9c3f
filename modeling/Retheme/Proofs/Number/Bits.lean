import Mathlib
import Retheme.Proofs.Number.Rounding

/-!
# The bits of the doubles

The sign, the mantissa and the exponent of a finite double are its bits, so a
fraction that rounds to the bits of a double rounds to the double. The two
infinities and the double that is no number have bits of their own.
-/

namespace Retheme.Binary64

variable {num den mantissa : Nat} {exponent : Int}

theorem bits_of_shape {x : Float} {negative : Bool} (h : shape x = .finite negative mantissa exponent) :
    IsDouble mantissa exponent ∧
      x.toBits.toNat = (exponent - minExponent).toNat * twoTo 52 + mantissa +
        if negative then twoTo 63 else 0 := by
  have hlt := x.toBits.toNat_lt
  have h52 : twoTo 52 = 4503599627370496 := rfl
  have h63 : twoTo 63 = 9223372036854775808 := rfl
  have h11 : twoTo 11 = 2048 := rfl
  rw [shape] at h
  generalize x.toBits.toNat = bits at h hlt ⊢
  simp only [shapeOfBits, h52, h63, h11] at h ⊢
  split at h
  · split at h <;> cases h
  · split at h
    · cases h
      refine ⟨⟨by omega, le_refl _, by decide, fun h => absurd h (lt_irrefl _)⟩, ?_⟩
      simp only [sub_self, Int.toNat_zero, beq_iff_eq]
      split <;> omega
    · cases h
      refine ⟨⟨by omega, by rw [minExponent]; omega, by omega, fun _ => by omega⟩, ?_⟩
      simp only [minExponent, beq_iff_eq]
      split <;> omega

/-- A fraction that has the bits of the magnitude of a double gives the double. -/
theorem nearest_of_shape {x : Float} {negative : Bool}
    (h : shape x = .finite negative mantissa exponent)
    (hb : nearestBits num den = (exponent - minExponent).toNat * twoTo 52 + mantissa) :
    nearest negative num den = x := by
  rw [nearest, hb, ← (bits_of_shape h).2, UInt64.ofNat_toNat, Float.ofBits_toBits]

theorem eq_infinity_of_shape {x : Float} {negative : Bool} (h : shape x = .infinite negative) :
    x = if negative then negativeInfinity else positiveInfinity := by
  have hlt := x.toBits.toNat_lt
  have h52 : twoTo 52 = 4503599627370496 := rfl
  have h63 : twoTo 63 = 9223372036854775808 := rfl
  have h11 : twoTo 11 = 2048 := rfl
  have hbits : x.toBits.toNat =
      2047 * 4503599627370496 + if negative then 9223372036854775808 else 0 := by
    rw [shape] at h
    generalize x.toBits.toNat = bits at h hlt ⊢
    simp only [shapeOfBits, h52, h63, h11] at h
    split at h
    · split at h
      · cases h
        simp only [beq_iff_eq]
        split <;> omega
      · cases h
    · split at h <;> cases h
  rw [← Float.ofBits_toBits x, ← UInt64.ofNat_toNat (x := x.toBits), hbits]
  cases negative <;> rfl

theorem eq_nan_of_shape {x : Float} (h : shape x = .nan) : x = nan := by
  have h52 : twoTo 52 = 4503599627370496 := rfl
  have h11 : twoTo 11 = 2048 := rfl
  have hmodel : x.toModel.toBits = x.toBits := rfl
  obtain ⟨hbiased, hfraction⟩ : x.toBits.toNat / 4503599627370496 % 2048 = 2047 ∧
      x.toBits.toNat % 4503599627370496 ≠ 0 := by
    simp only [shape, shapeOfBits, h52, h11] at h
    split at h
    · next hb => exact ⟨hb, fun hf => by simp [hf] at h⟩
    · split at h <;> cases h
  have hnan := x.toModel.valid.eq_packedNaN
  rw [Float.Model.UnpackedFloat.unpackExponent_def, Float.Model.UnpackedFloat.unpackMantissa_def]
    at hnan
  rw [nan, ← Float.ofBits_toBits x]
  congr 1
  refine UInt64.toBitVec_inj.mp (hnan ?_ ?_)
  · rw [← BitVec.toNat_inj]
    simpa [BitVec.extractLsb'_toNat, Nat.shiftRight_eq_div_pow, hmodel] using hbiased
  · rw [Ne, ← BitVec.toNat_inj]
    simpa [BitVec.extractLsb'_toNat, Nat.shiftRight_eq_div_pow, hmodel] using hfraction

-- ---------------------------------------------------------------------------
-- The order of the doubles
-- ---------------------------------------------------------------------------

theorem compare_swap (a b : Float.Model.UnpackedFloat) :
    b.compare a = (a.compare b).map Ordering.swap := by
  rw [Float.Model.UnpackedFloat.compare.eq_def, Float.Model.UnpackedFloat.compare.eq_def]
  -- The signs decide, unless both numbers are finite and have the same.
  rcases a with s | _ | s | ⟨s, m, e, hm⟩ <;> rcases b with t | _ | t | ⟨t, n, f, hn⟩ <;>
    try cases s <;> try cases t
  all_goals try rfl
  all_goals simp [Ordering.swap_then, ← Std.OrientedCmp.eq_swap]

theorem not_lt_of_le {x y : Float} (h : x ≤ y) : ¬ y < x := by
  intro h'
  have hle : (x.toModel.unpack.compare y.toModel.unpack).any (·.isLE) = true := of_decide_eq_true h
  have hlt : (y.toModel.unpack.compare x.toModel.unpack == some .lt) = true := of_decide_eq_true h'
  rw [compare_swap, beq_iff_eq] at hlt
  obtain ⟨order, ho, hs⟩ := Option.map_eq_some_iff.mp hlt
  rw [ho] at hle
  cases order <;> simp_all

end Retheme.Binary64
