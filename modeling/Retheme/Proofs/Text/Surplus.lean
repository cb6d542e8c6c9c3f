import Mathlib.Data.List.Count
import Mathlib.Data.List.Infix
import Retheme.Proofs.Text.Pieces

/-!
# Brackets that are opened and not closed

A text is read from left to right. A quote is closed by the same character, and
what is read while one is open does not count. The surplus of a text is the
number of brackets of any shape that it opens less those that it closes; a text
is settled when no part of it from the start has a negative surplus, and in the
end no bracket and no quote is open. Readers pass just these texts, and the
surplus is the depth they are at.
-/

namespace Retheme.Text

variable {quote : Option Char} {text front : Text}

def quoteAfter (quote : Option Char) (c : Char) : Option Char :=
  match quote with
  | some opened => if c = opened then none else some opened
  | none => if Nesting.isQuote c then some c else none

def openQuote (quote : Option Char) (text : Text) : Option Char := text.foldl quoteAfter quote

def unquoted (quote : Option Char) : Text → Text
  | [] => []
  | c :: rest =>
    if quote.isNone then c :: unquoted (quoteAfter quote c) rest
    else unquoted (quoteAfter quote c) rest

def surplus (quote : Option Char) (text : Text) : Int :=
  (unquoted quote text).countP Brackets.all.opens - (unquoted quote text).countP Brackets.all.closes

structure IsSettled (text : Text) : Prop where
  prefixes : ∀ front, front <+: text → 0 ≤ surplus none front
  total : surplus none text = 0
  closed : openQuote none text = none

theorem surplus_nil : surplus quote [] = 0 := rfl

theorem surplus_cons (quote : Option Char) (c : Char) (rest : Text) :
    surplus quote (c :: rest) = surplus quote [c] + surplus (quoteAfter quote c) rest := by
  cases quote with
  | some opened => simp [surplus, unquoted]
  | none =>
    simp only [surplus, unquoted, Option.isNone_none, if_true, List.countP_cons, List.countP_nil]
    omega

theorem surplus_quoted (opened c : Char) : surplus (some opened) [c] = 0 := by
  simp [surplus, unquoted]

theorem surplus_unquoted (c : Char) :
    surplus none [c] =
      (if Brackets.all.opens c then 1 else 0) - if Brackets.all.closes c then 1 else 0 := by
  simp only [surplus, unquoted, Option.isNone_none, if_true, List.countP_singleton]
  split <;> split <;> rfl

end Retheme.Text

namespace Retheme.Nesting

open Text (surplus openQuote quoteAfter IsSettled)

variable {nesting last : Nesting} {text front : Text} {c : Char}

-- ---------------------------------------------------------------------------
-- One character
-- ---------------------------------------------------------------------------

theorem opens_eq_false_of_isQuote (h : isQuote c = true) : Brackets.all.opens c = false := by
  rcases Bool.or_eq_true_iff.mp h with h | h <;> simp [of_decide_eq_true h, Brackets.all]

theorem closes_eq_false_of_isQuote (h : isQuote c = true) : Brackets.all.closes c = false := by
  rcases Bool.or_eq_true_iff.mp h with h | h <;> simp [of_decide_eq_true h, Brackets.all]

theorem closes_eq_false_of_opens (h : Brackets.all.opens c = true) :
    Brackets.all.closes c = false := by
  have ho : (c = '(' ∨ c = '[') ∨ c = '{' := by simpa [Brackets.all] using h
  rcases ho with (rfl | rfl) | rfl <;> rfl

theorem depth_after_or (nesting : Nesting) (c : Char) :
    nesting.unopened .all c = true ∧ nesting.depth + surplus nesting.quote [c] < 0 ∨
      nesting.unopened .all c = false ∧
        ((nesting.after .all c).depth : Int) = nesting.depth + surplus nesting.quote [c] := by
  obtain ⟨depth, quote⟩ := nesting
  cases quote with
  | some opened =>
    rw [Text.surplus_quoted]
    refine .inr ⟨by simp [unopened, top], ?_⟩
    by_cases hc : c = opened <;> simp [after, hc]
  | none =>
    rw [Text.surplus_unquoted]
    cases hq : isQuote c with
    | true =>
      have ho := opens_eq_false_of_isQuote hq
      have hl := closes_eq_false_of_isQuote hq
      exact .inr ⟨by simp [unopened, hl], by simp [after, hq, ho, hl]⟩
    | false =>
      cases ho : Brackets.all.opens c with
      | true =>
        have hl := closes_eq_false_of_opens ho
        exact .inr ⟨by simp [unopened, hl], by simp [after, hq, ho, hl]⟩
      | false =>
        cases hl : Brackets.all.closes c with
        | true =>
          cases depth with
          | zero => exact .inl ⟨by simp [unopened, top, hq, ho, hl], by simp⟩
          | succ depth =>
            have ha : (⟨depth + 1, none⟩ : Nesting).after .all c = ⟨depth, none⟩ := by
              simp [after, hq, ho, hl]
            refine .inr ⟨by simp [unopened, top], ?_⟩
            simp only [ha, Bool.false_eq_true, if_false, if_true]
            omega
        | false => exact .inr ⟨by simp [unopened, hl], by simp [after, hq, ho, hl]⟩

theorem quoteAfter_eq (nesting : Nesting) (c : Char) :
    quoteAfter nesting.quote c = (nesting.after .all c).quote := by
  rw [quote_after]
  rfl

-- ---------------------------------------------------------------------------
-- Texts
-- ---------------------------------------------------------------------------

/-- A reader passes a text when no part of the text from its start closes more than is open, and
then the surplus is added to its depth. -/
theorem passes?_iff_surplus :
    passes? .all none nesting text = some last ↔
      (∀ front, front <+: text → 0 ≤ nesting.depth + surplus nesting.quote front) ∧
        (last.depth : Int) = nesting.depth + surplus nesting.quote text ∧
        last.quote = openQuote nesting.quote text := by
  induction text generalizing nesting with
  | nil =>
    constructor
    · intro h
      obtain rfl := Option.some.inj h
      refine ⟨fun front hf => ?_, (Int.add_zero _).symm, rfl⟩
      rw [List.prefix_nil.mp hf, Text.surplus_nil]
      omega
    · rintro ⟨-, hd, hq⟩
      obtain ⟨depth, quote⟩ := nesting
      obtain ⟨depth', quote'⟩ := last
      obtain rfl : quote' = quote := hq
      obtain rfl : depth' = depth := Int.ofNat.inj (hd.trans (Int.add_zero _))
      rfl
  | cons c rest ih =>
    have hcons := Text.surplus_cons nesting.quote c
    rcases depth_after_or nesting c with ⟨hu, hneg⟩ | ⟨hu, hd⟩
    · have hp : passes? .all none nesting (c :: rest) = none := by simp [passes?, hu]
      rw [hp]
      refine iff_of_false (Option.some_ne_none last).symm fun h => ?_
      have hc := h.1 [c] (List.prefix_append [c] rest)
      omega
    · have hp : passes? .all none nesting (c :: rest) =
          passes? .all none (nesting.after .all c) rest := by simp [passes?, hu]
      rw [hp, ih, ← quoteAfter_eq, hcons, hd, openQuote, openQuote, List.foldl_cons,
        Int.add_assoc]
      refine and_congr_left fun _ => ⟨fun h front hf => ?_, fun h front hf => ?_⟩
      · rcases List.prefix_cons_iff.mp hf with rfl | ⟨tail, rfl, ht⟩
        · simp [Text.surplus_nil]
        · rw [hcons, ← Int.add_assoc]
          exact h tail ht
      · have hc := h (c :: front) ((List.prefix_cons_inj c).mpr hf)
        rw [hcons] at hc
        omega

theorem isSettled_iff : IsSettled text ↔ passes? .all none top text = some top := by
  rw [passes?_iff_surplus]
  simp only [top, Int.natCast_zero, Int.zero_add]
  exact ⟨fun h => ⟨h.prefixes, h.total.symm, h.closed.symm⟩, fun h => ⟨h.1, h.2.1.symm, h.2.2.symm⟩⟩

theorem behind_eq_top_iff (h : passes? .all none top text = some last) (hf : front <+: text) :
    top.behind .all front = top ↔ surplus none front = 0 ∧ openQuote none front = none := by
  obtain ⟨rest, rfl⟩ := hf
  obtain ⟨middle, hm, -⟩ := exists_passes?_of_append h
  obtain ⟨-, hd, hq⟩ := passes?_iff_surplus.mp hm
  rw [behind, foldl_after hm]
  obtain ⟨depth, quote⟩ := middle
  simp only [top, Int.natCast_zero, Int.zero_add] at hd hq
  rw [← hd, ← hq, top, Nesting.mk.injEq, Int.natCast_eq_zero]

end Retheme.Nesting
