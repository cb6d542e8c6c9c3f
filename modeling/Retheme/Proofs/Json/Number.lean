import Retheme.Json.Reader
import Retheme.Json.Writer
import Retheme.Proofs.Number.Numeral
import Retheme.Proofs.Text.Ends

/-!
# Numbers in JSON

A number is read up to the first character that goes on with no number. An
integer that is not too long is read back from its digits, and a double from
its shortest decimal or its name.
-/

namespace Retheme.Json

open Decimal (Numeral fractionText exponentText)
open Integer (IsWhole)

variable {rest : Text} {x : Float}

-- ---------------------------------------------------------------------------
-- The end of a number
-- ---------------------------------------------------------------------------

def Stops (rest : Text) : Prop :=
  ∀ c, rest.head? = some c → Text.isAsciiDigit c = false ∧ c ≠ '.' ∧ c ≠ 'e' ∧ c ≠ 'E'

theorem stops_nil : Stops [] := by
  rintro c ⟨⟩

theorem Stops.not_digit (h : Stops rest) :
    ∀ c, rest.head? = some c → Text.isAsciiDigit c = false := fun c hc => (h c hc).1

theorem isAsciiDigit_ne {c d : Char} (hc : Text.isAsciiDigit c = true)
    (hd : Text.isAsciiDigit d = false) : c ≠ d := by
  rintro rfl
  rw [hc] at hd
  cases hd

-- ---------------------------------------------------------------------------
-- The parts of a number
-- ---------------------------------------------------------------------------

theorem readWhole?_append {whole : Text} (hw : IsWhole whole)
    (hr : ∀ c, rest.head? = some c → Text.isAsciiDigit c = false) :
    readWhole? (whole ++ rest) = some (whole, rest) := by
  obtain ⟨htake, hdrop⟩ := Text.takeWhile_append_of_head hw.digit hr
  rw [readWhole?.eq_def]
  split
  · next more hz =>
    cases hs : whole with
    | nil => exact absurd hs hw.ne_nil
    | cons first more' =>
      rw [hs, List.cons_append] at hz
      obtain ⟨rfl, -⟩ := List.cons.inj hz
      have hone := hw.zero (by rw [hs]; rfl)
      rw [hs] at hone
      obtain ⟨-, rfl⟩ := List.cons.inj hone
      simp_all
  · rw [htake, hdrop, if_neg (by simpa using hw.ne_nil)]

theorem readFraction_append (fraction : Text) (hf : ∀ c ∈ fraction, Text.isAsciiDigit c = true)
    (hr : ∀ c, rest.head? = some c → Text.isAsciiDigit c = false ∧ c ≠ '.') :
    readFraction (fractionText fraction ++ rest) = (fraction, rest) := by
  obtain ⟨htake, hdrop⟩ := Text.takeWhile_append_of_head hf fun c hc => (hr c hc).1
  by_cases hnil : fraction = []
  · subst hnil
    rw [readFraction.eq_def]
    split
    · next more hm => exact absurd rfl (hr '.' (by simpa [fractionText] using congrArg List.head? hm)).2
    · rfl
  · have htext : fractionText fraction = '.' :: fraction := by simp [fractionText, hnil]
    rw [htext, List.cons_append, readFraction, htake, hdrop]
    simp [hnil]

theorem readExponent_append (exponent : Option (Bool × Text))
    (he : ∀ part ∈ exponent, part.2 ≠ [] ∧ ∀ c ∈ part.2, Text.isAsciiDigit c = true)
    (hr : Stops rest) :
    Decimal.readExponent Text.isAsciiDigit (exponentText exponent ++ rest) = (exponent, rest) := by
  cases exponent with
  | none =>
    cases rest with
    | nil => rfl
    | cons c rest =>
      obtain ⟨-, -, hsmall, hcapital⟩ := hr c rfl
      simp [exponentText, Decimal.readExponent, hsmall, hcapital]
  | some part =>
    obtain ⟨negative, digits⟩ := part
    obtain ⟨hne, hdigit⟩ := he _ rfl
    obtain ⟨htake, hdrop⟩ := Text.takeWhile_append_of_head hdigit hr.not_digit
    have hsign : Decimal.readSign ((if negative then '-' else '+') :: (digits ++ rest)) =
        (negative, digits ++ rest) := by
      cases negative <;> rfl
    simp [exponentText, Decimal.readExponent, hsign, htake, hdrop, hne]

theorem head?_exponentText (exponent : Option (Bool × Text)) (hr : Stops rest) :
    ∀ c, (exponentText exponent ++ rest).head? = some c → Text.isAsciiDigit c = false ∧ c ≠ '.' := by
  intro c hc
  cases exponent with
  | none => exact ⟨(hr c hc).1, (hr c hc).2.1⟩
  | some part =>
    obtain rfl := Option.some.inj hc
    exact ⟨rfl, by decide⟩

theorem head?_fractionText (fraction : Text) {more : Text}
    (hm : ∀ c, more.head? = some c → Text.isAsciiDigit c = false) :
    ∀ c, (fractionText fraction ++ more).head? = some c → Text.isAsciiDigit c = false := by
  intro c hc
  rw [fractionText] at hc
  split at hc
  · exact hm c hc
  · obtain rfl := Option.some.inj hc
    rfl

-- ---------------------------------------------------------------------------
-- Numbers
-- ---------------------------------------------------------------------------

theorem readNumber_magnitude {numeral : Numeral} (hn : numeral.IsDouble) (hr : Stops rest) :
    readNumber numeral.negative (numeral.magnitude ++ rest) = .ok (.float numeral.value, rest) := by
  have hexponent := head?_exponentText numeral.exponent hr
  have hwhole := readWhole?_append hn.whole
    (head?_fractionText numeral.fraction fun c hc => (hexponent c hc).1)
  have hmarked : (numeral.fraction.isEmpty && numeral.exponent.isNone) = false := by
    rcases hn.marked with h | h
    · simp [h]
    · cases he : numeral.exponent with
      | none => exact absurd he h
      | some part => simp
  simp only [readNumber, Numeral.magnitude, List.append_assoc, hwhole,
    readFraction_append _ hn.fraction hexponent, readExponent_append _ hn.exponent hr, hmarked,
    Bool.false_eq_true, if_false]

theorem readNumber_digits (negative : Bool) {n : Nat} (hn : n < tenTo Integer.digitLimit)
    (hr : Stops rest) :
    readNumber negative (Integer.digits n ++ rest) =
      .ok (.int (if negative then -(n : Int) else n), rest) := by
  have hlen : ¬ Integer.digitLimit < (Integer.digits n).length :=
    not_lt.mpr (Integer.length_digits_le (by decide) hn)
  have hfraction : readFraction rest = ([], rest) :=
    readFraction_append [] (by simp) fun c hc => ⟨(hr c hc).1, (hr c hc).2.1⟩
  have hexponent : Decimal.readExponent Text.isAsciiDigit rest = (none, rest) :=
    readExponent_append none (by simp) hr
  simp only [readNumber, readWhole?_append (Integer.isWhole_digits n) hr.not_digit, hfraction,
    hexponent, List.isEmpty_nil, Option.isNone_none, Bool.and_self, if_true, if_neg hlen,
    Integer.digitsValue_digits]

theorem readNumber_double {negative : Bool} {mantissa : Nat} {exponent : Int}
    (hs : Binary64.shape x = .finite negative mantissa exponent) (hr : Stops rest) :
    readNumber negative
      ((if mantissa = 0 then "0.0".toList else (Decimal.shortest mantissa exponent).text) ++ rest) =
        .ok (.float x, rest) := by
  split
  · next hm =>
    subst hm
    have hzero : (⟨negative, ['0'], ['0'], none⟩ : Numeral).IsDouble :=
      ⟨Integer.isWhole_zero, Integer.isWhole_zero.digit, by simp, .inl (by simp)⟩
    have hx : Decimal.toFloat negative ⟨0, -1⟩ = x := Decimal.toFloat_zero hs rfl
    rw [← hx]
    exact readNumber_magnitude hzero hr
  · next hm =>
    obtain ⟨hx, -⟩ := Binary64.bits_of_shape hs
    obtain ⟨-, hexponent⟩ := Decimal.within_shortest hx hm
    obtain ⟨numeral, rfl, hn⟩ :=
      Decimal.exists_writes negative _ (Decimal.shortest_digits_ne_zero hx hm)
    have hscale : -400 ≤ numeral.scaled.exponent := by
      rcases hn.scale with h | h <;> rw [h]
      · exact hexponent
      · decide
    have hvalue : numeral.value = x := Decimal.toFloat_shortest hs hm hscale hn.value
    rw [← hn.text, ← hvalue]
    exact readNumber_magnitude hn.toIsDouble hr

end Retheme.Json
