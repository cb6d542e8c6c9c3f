import Mathlib.Tactic.Common
import Retheme.Json.Reader
import Retheme.Json.Writer

/-!
# Strings in JSON

A character is written as itself, by a backslash and a letter, or by the
numbers of its code units. The reader collects the code units, and two
surrogates that belong together are the character they were written for.
-/

namespace Retheme.Json

variable {units : List Nat} {rest : Text} (half : Nat → Char)

-- ---------------------------------------------------------------------------
-- Code units
-- ---------------------------------------------------------------------------

/-- The code units of a character: its number, or two surrogates. -/
def unitsOf (c : Char) : List Nat :=
  if c.toNat < 0x10000 then [c.toNat]
  else [0xd800 + (c.toNat - 0x10000) / 0x400, 0xdc00 + (c.toNat - 0x10000) % 0x400]

theorem toNat_valid (c : Char) : c.toNat < 0xd800 ∨ 0xdfff < c.toNat ∧ c.toNat < 0x110000 := c.valid

theorem charOf_toNat (c : Char) : charOf half c.toNat = c := by
  have hv : Nat.isValidChar c.toNat := c.valid
  rw [charOf, if_pos hv, Char.ofNat_toNat]

theorem textOfUnits_single {code : Nat} (hc : code < 0xd800 ∨ 0xdc00 ≤ code) (units : List Nat) :
    textOfUnits half (code :: units) = charOf half code :: textOfUnits half units := by
  cases units with
  | nil => rfl
  | cons low units =>
    rw [textOfUnits, if_neg]
    simp only [Bool.and_eq_true, decide_eq_true_eq]
    omega

theorem textOfUnits_unitsOf (c : Char) (units : List Nat) :
    textOfUnits half (unitsOf c ++ units) = c :: textOfUnits half units := by
  have hv := toNat_valid c
  rw [unitsOf]
  split
  · next h =>
    rw [List.singleton_append, textOfUnits_single half (by omega), charOf_toNat]
  · next h =>
    have hpair : 0x10000 + (0xd800 + (c.toNat - 0x10000) / 0x400 - 0xd800) * 0x400 +
        (0xdc00 + (c.toNat - 0x10000) % 0x400 - 0xdc00) = c.toNat := by omega
    rw [List.cons_append, List.singleton_append, textOfUnits, if_pos, hpair, charOf_toNat]
    simp only [Bool.and_eq_true, decide_eq_true_eq]
    omega

theorem textOfUnits_flatMap (s : Text) : textOfUnits half (s.flatMap unitsOf) = s := by
  induction s with
  | nil => rfl
  | cons c rest ih => rw [List.flatMap_cons, textOfUnits_unitsOf, ih]

-- ---------------------------------------------------------------------------
-- Characters
-- ---------------------------------------------------------------------------

theorem hexValue?_hexDigit : ∀ n < 16, Text.hexValue? (Text.hexDigit n) = some n := by decide

theorem readUnits_digit {left value n : Nat} (hn : n < 16) (hl : 1 < left) :
    readUnits units (.unicode left value) (Text.hexDigit n :: rest) =
      readUnits units (.unicode (left - 1) (16 * value + n)) rest := by
  rw [readUnits, hexValue?_hexDigit n hn]
  simp only [if_neg (Nat.not_le.mpr hl)]

theorem readUnits_unitEscape {unit : Nat} (hu : unit < 0x10000) :
    readUnits units .plain (unitEscape unit ++ rest) = readUnits (unit :: units) .plain rest := by
  have hdigits : Text.hexDigits 4 unit =
      [Text.hexDigit (unit / 16 / 16 / 16 % 16), Text.hexDigit (unit / 16 / 16 % 16),
        Text.hexDigit (unit / 16 % 16), Text.hexDigit (unit % 16)] := by
    have hzero : unit / 16 / 16 / 16 / 16 = 0 := by omega
    simp [Text.hexDigits, hzero]
  have hlt : ∀ n, n % 16 < 16 := fun n => Nat.mod_lt n (by decide)
  have hsum : 16 * (16 * (16 * (16 * 0 + unit / 16 / 16 / 16 % 16) + unit / 16 / 16 % 16) +
      unit / 16 % 16) + unit % 16 = unit := by omega
  rw [unitEscape, hdigits]
  simp only [List.cons_append, List.nil_append]
  -- The backslash, the letter and three digits, and then the last digit.
  rw [readUnits, if_neg (by decide), if_pos rfl, readUnits, if_pos rfl,
    readUnits_digit (hlt _) (by decide), readUnits_digit (hlt _) (by decide),
    readUnits_digit (hlt _) (by decide), readUnits, hexValue?_hexDigit _ (hlt _)]
  simp only [if_pos (show 4 - 1 - 1 - 1 ≤ 1 by decide), hsum]

theorem readUnits_escaped {letter c : Char} (hl : letter ≠ 'u') (hc : escaped? letter = some c) :
    readUnits units .plain ('\\' :: letter :: rest) = readUnits (c.toNat :: units) .plain rest := by
  rw [readUnits, if_neg (by decide), if_pos rfl, readUnits, if_neg hl, hc]

theorem readUnits_stringChar (c : Char) :
    readUnits units .plain (stringChar c ++ rest) =
      readUnits ((unitsOf c).reverse ++ units) .plain rest := by
  have hv := toNat_valid c
  have hsmall : c.toNat < 0x10000 → (unitsOf c).reverse ++ units = c.toNat :: units := by
    intro h
    rw [unitsOf, if_pos h]
    rfl
  rw [stringChar]
  split
  · next h =>
    rcases (by simpa using h : c = '"' ∨ c = '\\') with rfl | rfl <;>
      exact readUnits_escaped (by decide) rfl
  split
  · next h => exact h ▸ readUnits_escaped (by decide) rfl
  split
  · next h => exact h ▸ readUnits_escaped (by decide) rfl
  split
  · next h => exact h ▸ readUnits_escaped (by decide) rfl
  split
  · next h => exact h ▸ readUnits_escaped (by decide) rfl
  split
  · next h => exact h ▸ readUnits_escaped (by decide) rfl
  next hq _ _ _ _ _ =>
  split
  · next h =>
    simp only [Bool.or_eq_true, decide_eq_true_eq, not_or] at hq
    simp only [Bool.and_eq_true, decide_eq_true_eq] at h
    rw [hsmall (by omega), List.singleton_append, readUnits, if_neg hq.1, if_neg hq.2,
      if_neg (by omega)]
  · split
    · next h => rw [hsmall h, readUnits_unitEscape h]
    · next h =>
      rw [List.append_assoc, readUnits_unitEscape (by omega), readUnits_unitEscape (by omega),
        unitsOf, if_neg h]
      rfl

-- ---------------------------------------------------------------------------
-- Strings
-- ---------------------------------------------------------------------------

theorem readUnits_flatMap (s : Text) (units : List Nat) (rest : Text) :
    readUnits units .plain (s.flatMap stringChar ++ '"' :: rest) =
      .ok (units.reverse ++ s.flatMap unitsOf, rest) := by
  induction s generalizing units with
  | nil => simp [readUnits]
  | cons c s ih =>
    rw [List.flatMap_cons, List.append_assoc, readUnits_stringChar, ih, List.flatMap_cons,
      List.reverse_append, List.reverse_reverse, List.append_assoc]

/-- A string is read back behind its opening quote. -/
theorem readString_flatMap (s rest : Text) :
    readString half (s.flatMap stringChar ++ '"' :: rest) = .ok (s, rest) := by
  rw [readString, readUnits_flatMap, List.reverse_nil, List.nil_append]
  simp only [Except.map, textOfUnits_flatMap]

end Retheme.Json
