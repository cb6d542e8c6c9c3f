import Mathlib.Data.Nat.Notation
import Retheme.Text.CaseFold
import Retheme.Text.Hex

/-!
# The letter case of hexadecimal digits

No letter of another script is the same letter as a hexadecimal digit, so the
characters that are the same letter are the hexadecimal digits of its value.
-/

namespace Retheme.Text

variable {a c : Char} {n : Nat}

theorem caseRuns_beyond :
    (caseRuns.tail.all fun run => decide (0x66 < run.first + run.shift)) = true := by decide +kernel

theorem toNat_ofNat (n : Nat) : (Char.ofNat n).toNat = n ∨ (Char.ofNat n).toNat = 0 := by
  by_cases h : n.isValidChar
  · exact .inl (by rw [Char.ofNat, dif_pos h]; rfl)
  · exact .inr (by rw [Char.ofNat, dif_neg h]; rfl)

theorem caseFold_beyond (h : 0x66 < c.toNat) :
    (caseFold c).toNat = 0 ∨ 0x66 < (caseFold c).toNat := by
  rw [caseFold]
  split
  · next run hrun =>
    have hin := List.find?_some hrun
    simp only [Bool.and_eq_true, decide_eq_true_eq] at hin
    obtain ⟨⟨hfirst, hlast⟩, -⟩ := hin
    rcases List.mem_cons.mp (List.mem_of_find?_eq_some hrun) with rfl | hmem
    · exact absurd hlast (Nat.not_le.mpr (Nat.lt_trans (by decide) h))
    · have hbeyond := of_decide_eq_true (List.all_eq_true.mp caseRuns_beyond run hmem)
      rcases toNat_ofNat (c.toNat + run.shift).toNat with he | he
      · exact .inr (by omega)
      · exact .inl he
  · exact .inr h

theorem caseFold_table : ∀ code < 0x67, ∀ n < 16,
    hexValue? (Char.ofNat code) = some n ↔ caseFold (Char.ofNat code) = hexDigit n := by
  decide +kernel

theorem hexDigit_range : ∀ n < 16, 0 < (hexDigit n).toNat ∧ (hexDigit n).toNat ≤ 0x66 := by decide

theorem hexValue?_range (h : hexValue? c = some n) : c.toNat ≤ 0x66 ∧ n < 16 := by
  have hle : ∀ {d : Char}, c ≤ d → c.toNat ≤ d.toNat := fun h => h
  simp only [hexValue?, Bool.and_eq_true, decide_eq_true_eq] at h
  split at h
  · next hc =>
    obtain rfl := Option.some.inj h
    have : c.toNat ≤ 57 := hle hc.2
    omega
  · split at h
    · next hc =>
      obtain rfl := Option.some.inj h
      have : c.toNat ≤ 102 := hle hc.2
      omega
    · split at h
      · next hc =>
        obtain rfl := Option.some.inj h
        have : c.toNat ≤ 70 := hle hc.2
        omega
      · cases h

theorem hexValue?_eq_some_iff (hn : n < 16) : hexValue? c = some n ↔ caseFold c = hexDigit n := by
  rcases Nat.lt_or_ge c.toNat 0x67 with hc | hc
  · have htable := caseFold_table c.toNat hc n hn
    rwa [Char.ofNat_toNat] at htable
  · refine iff_of_false (fun h => ?_) fun h => ?_
    · have := (hexValue?_range h).1
      omega
    · have hrange := hexDigit_range n hn
      rcases caseFold_beyond (by omega : 0x66 < c.toNat) with hz | hz <;> rw [h] at hz <;> omega

theorem sameLetter_iff (ha : isHexDigit a = true) :
    sameLetter a c = true ↔ hexValue? c = hexValue? a := by
  obtain ⟨n, hn⟩ := Option.isSome_iff_exists.mp ha
  have hlt := (hexValue?_range hn).2
  rw [sameLetter, decide_eq_true_eq, hn, hexValue?_eq_some_iff hlt,
    (hexValue?_eq_some_iff hlt).mp hn, eq_comm]

end Retheme.Text
