import Retheme.Text.Nesting

/-!
# Reading past a text

A reader of brackets and quotes passes a text when it meets no bracket to close
that was not open and, if a separator is given, no separator at the top.
Everything defined by such a reader then takes the text as a whole: it is kept
in front of the first piece of what follows, and its brackets are not seen.
-/

namespace Retheme.Nesting

variable {brackets : Brackets} {separator : Option Char} {nesting middle last : Nesting}
  {text rest inner outer : Text} {c quote : Char} {depth : Nat}

def passes? (brackets : Brackets) (separator : Option Char) (nesting : Nesting) :
    Text → Option Nesting
  | [] => some nesting
  | c :: rest =>
    if nesting.unopened brackets c || separator.any (nesting.separates brackets · c) then none
    else passes? brackets separator (nesting.after brackets c) rest

theorem passes?_cons (h : passes? brackets separator nesting (c :: rest) = some last) :
    nesting.unopened brackets c = false ∧
      separator.any (nesting.separates brackets · c) = false ∧
      passes? brackets separator (nesting.after brackets c) rest = some last := by
  rw [passes?] at h
  split at h
  · cases h
  · next hc =>
    rw [Bool.not_eq_true, Bool.or_eq_false_iff] at hc
    exact ⟨hc.1, hc.2, h⟩

theorem passes?_append (h : passes? brackets separator nesting text = some middle) (rest : Text) :
    passes? brackets separator nesting (text ++ rest) =
      passes? brackets separator middle rest := by
  induction text generalizing nesting with
  | nil =>
    cases h
    rfl
  | cons c text ih =>
    obtain ⟨hu, hs, ht⟩ := passes?_cons h
    rw [List.cons_append, passes?, hu, hs]
    exact ih ht

theorem exists_passes?_of_append
    (h : passes? brackets separator nesting (text ++ rest) = some last) :
    ∃ middle, passes? brackets separator nesting text = some middle ∧
      passes? brackets separator middle rest = some last := by
  induction text generalizing nesting with
  | nil => exact ⟨nesting, rfl, h⟩
  | cons c text ih =>
    obtain ⟨hu, hs, ht⟩ := passes?_cons h
    obtain ⟨middle, hm, hr⟩ := ih ht
    refine ⟨middle, ?_, hr⟩
    rw [passes?, hu, hs]
    exact hm

-- ---------------------------------------------------------------------------
-- What readers make of a text that is passed
-- ---------------------------------------------------------------------------

theorem foldl_after (h : passes? brackets separator nesting text = some last) :
    text.foldl (after brackets) nesting = last := by
  induction text generalizing nesting with
  | nil =>
    cases h
    rfl
  | cons c text ih => exact ih (passes?_cons h).2.2

theorem firstUnopened?_eq_none (h : passes? brackets separator nesting text = some last) :
    firstUnopened? brackets nesting text = none := by
  induction text generalizing nesting with
  | nil => rfl
  | cons c text ih =>
    obtain ⟨hu, -, ht⟩ := passes?_cons h
    rw [firstUnopened?, hu]
    exact ih ht

theorem inside?_append (h : passes? brackets separator nesting text = some middle)
    (hi : inside? brackets middle rest = some (inner, outer)) :
    inside? brackets nesting (text ++ rest) = some (text ++ inner, outer) := by
  induction text generalizing nesting with
  | nil =>
    cases h
    exact hi
  | cons c text ih =>
    obtain ⟨hu, -, ht⟩ := passes?_cons h
    rw [List.cons_append, inside?, hu, ih ht]
    rfl

theorem passes?_of_firstUnopened?_eq_none (h : firstUnopened? brackets nesting text = none) :
    passes? brackets none nesting text = some (text.foldl (after brackets) nesting) := by
  induction text generalizing nesting with
  | nil => rfl
  | cons c text ih =>
    rw [firstUnopened?] at h
    split at h
    · cases h
    · next hu =>
      rw [passes?, Bool.eq_false_iff.mpr hu]
      exact ih h

/-- What lies inside of a bracket is passed, and followed by the bracket that closes it. -/
theorem passes?_of_inside? (h : inside? brackets nesting text = some (inner, outer)) :
    passes? brackets none nesting inner = some top ∧
      ∃ c, brackets.closes c = true ∧ text = inner ++ c :: outer := by
  induction text generalizing nesting inner with
  | nil => cases h
  | cons c text ih =>
    rw [inside?] at h
    split at h
    · next hu =>
      cases h
      simp only [unopened, Bool.and_eq_true, decide_eq_true_eq] at hu
      exact ⟨congrArg some hu.1.1.1, c, hu.2, rfl⟩
    · next hu =>
      obtain ⟨⟨i, o⟩, hi, he⟩ := Option.map_eq_some_iff.mp h
      cases he
      obtain ⟨hp, d, hd, rfl⟩ := ih hi
      refine ⟨?_, d, hd, rfl⟩
      rw [passes?, Bool.eq_false_iff.mpr hu]
      exact hp

section

variable {separator : Char} {piece : Text} {pieces : List Text}

theorem split_append (h : passes? brackets (some separator) nesting text = some middle)
    (hs : split brackets separator middle rest = piece :: pieces) :
    split brackets separator nesting (text ++ rest) = (text ++ piece) :: pieces := by
  induction text generalizing nesting with
  | nil =>
    cases h
    exact hs
  | cons c text ih =>
    obtain ⟨-, hc, ht⟩ := passes?_cons h
    have hc : nesting.separates brackets separator c = false := by simpa using hc
    rw [List.cons_append, split, ih ht]
    simp [hc]

theorem split_eq_singleton (h : passes? brackets (some separator) nesting text = some last) :
    split brackets separator nesting text = [text] := by
  have hn : split brackets separator last [] = [[]] := rfl
  simpa using split_append h hn

theorem split_append_separator (h : passes? brackets (some separator) nesting text = some top)
    (hs : top.separates brackets separator separator = true) (rest : Text) :
    split brackets separator nesting (text ++ separator :: rest) =
      text :: split brackets separator top rest := by
  have ha : top.after brackets separator = top := by
    simp only [separates, Bool.and_eq_true, Bool.not_eq_eq_eq_not, Bool.not_true] at hs
    obtain ⟨⟨⟨-, hq⟩, ho⟩, hc⟩ := hs
    simp [after, top, hq, ho, hc]
  have hr : split brackets separator top (separator :: rest) =
      [] :: split brackets separator top rest := by
    rw [split, ha]
    simp [hs]
  simpa using split_append h hr

end

-- ---------------------------------------------------------------------------
-- Texts that are passed
-- ---------------------------------------------------------------------------

def isPlain (brackets : Brackets) (separator : Option Char) (c : Char) : Bool :=
  !isQuote c && !brackets.opens c && !brackets.closes c && separator != some c

theorem passes?_plain (h : ∀ c ∈ text, isPlain brackets separator c) :
    passes? brackets separator ⟨depth, none⟩ text = some ⟨depth, none⟩ := by
  induction text with
  | nil => rfl
  | cons c rest ih =>
    have hc := h c (by simp)
    simp only [isPlain, Bool.and_eq_true, Bool.not_eq_eq_eq_not, Bool.not_true, bne_iff_ne,
      ne_eq] at hc
    obtain ⟨⟨⟨hq, ho⟩, hl⟩, hs⟩ := hc
    have hu : unopened brackets ⟨depth, none⟩ c = false := by simp [unopened, hl]
    have ht : separator.any (separates brackets · ⟨depth, none⟩ c) = false := by
      cases separator with
      | none => rfl
      | some s =>
        have : c ≠ s := fun he => hs (by rw [he])
        simp [separates, this]
    rw [passes?, hu, ht]
    simp only [after, hq, ho, hl, Bool.or_self, Bool.false_eq_true, if_false]
    exact ih fun d hd => h d (List.mem_cons_of_mem _ hd)

/-- Text in quotes that does not hold the quote is passed, whatever else it holds. -/
theorem passes?_quoted (hq : isQuote quote = true) (h : quote ∉ text) :
    passes? brackets separator ⟨depth, none⟩ (quote :: text ++ [quote]) =
      some ⟨depth, none⟩ := by
  have inner : ∀ text : Text, quote ∉ text →
      passes? brackets separator ⟨depth, some quote⟩ (text ++ [quote]) =
        some ⟨depth, none⟩ := by
    intro text ht
    induction text with
    | nil =>
      cases separator <;> simp [passes?, unopened, separates, top, after]
    | cons c rest ih =>
      simp only [List.mem_cons, not_or] at ht
      have hc : after brackets ⟨depth, some quote⟩ c = ⟨depth, some quote⟩ := by
        simp [after, Ne.symm ht.1]
      rw [List.cons_append, passes?, hc, ih ht.2]
      cases separator <;> simp [unopened, separates, top]
  have ho : after brackets ⟨depth, none⟩ quote = ⟨depth, some quote⟩ := by simp [after, hq]
  rw [List.cons_append, passes?, ho, inner text h]
  cases separator <;> simp [unopened, separates, hq]

-- ---------------------------------------------------------------------------
-- Inside of more brackets
-- ---------------------------------------------------------------------------

def deeper (nesting : Nesting) (more : Nat) : Nesting := { nesting with depth := nesting.depth + more }

theorem after_deeper (hu : nesting.unopened brackets c = false) (more : Nat) :
    (nesting.deeper more).after brackets c = (nesting.after brackets c).deeper more := by
  obtain ⟨depth, quote⟩ := nesting
  cases quote with
  | some quote => by_cases hc : c = quote <;> simp [after, deeper, hc]
  | none =>
    cases hq : isQuote c with
    | true => simp [after, deeper, hq]
    | false =>
      cases ho : brackets.opens c with
      | true =>
        simp [after, deeper, hq, ho]
        omega
      | false =>
        cases hl : brackets.closes c with
        | true =>
          -- A bracket that is closed was open, so that the depth is not zero.
          have hd : depth ≠ 0 := by simpa [unopened, top, hq, ho, hl] using hu
          simp [after, deeper, hq, ho, hl]
          omega
        | false => simp [after, deeper, hq, ho, hl]

/-- A text that is passed is passed at a greater depth too, and nothing in it separates there. -/
theorem passes?_deeper {more : Nat} (hm : 0 < more)
    (h : passes? brackets none nesting text = some last) :
    passes? brackets separator (nesting.deeper more) text = some (last.deeper more) := by
  have ht (nesting : Nesting) : nesting.deeper more ≠ top := by
    intro he
    have := congrArg depth he
    simp only [deeper, top] at this
    omega
  induction text generalizing nesting with
  | nil =>
    cases h
    rfl
  | cons c text ih =>
    obtain ⟨hu, -, hr⟩ := passes?_cons h
    have hu' : (nesting.deeper more).unopened brackets c = false := by simp [unopened, ht]
    have hs : separator.any (separates brackets · (nesting.deeper more) c) = false := by
      cases separator <;> simp [separates, ht]
    rw [passes?, hu', hs, after_deeper hu]
    exact ih hr

end Retheme.Nesting
