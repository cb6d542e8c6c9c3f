import Retheme.Proofs.Text.Cut
import Retheme.Proofs.Text.Ends
import Retheme.Proofs.Text.Pieces

/-!
# Strings in quotes

A string in quotes begins with a quotation mark outside of all strings and ends
with the next mark of the same kind. The strings of a text are those of its
pieces, in order, because no piece is cut inside of quotes.
-/

namespace Retheme.Text

open Nesting (isQuote)

variable {p : Char → Bool} {a b s text rest : Text} {c quote : Char}

/-- The strings in quotes of a text, with their quotes. A quote that is not closed begins none. -/
def quotedStrings : Text → List Text
  | [] => []
  | c :: rest =>
    if isQuote c then
      match h : cut? [c] rest with
      | some (body, after) =>
        have := length_lt_of_cut? (List.cons_ne_nil c []) h
        (c :: body ++ [c]) :: quotedStrings after
      | none => []
    else quotedStrings rest
termination_by text => text.length
decreasing_by
  all_goals simp only [List.length_cons]
  all_goals omega

def IsQuoted (s : Text) : Prop :=
  ∃ quote body, isQuote quote = true ∧ quote ∉ body ∧ s = quote :: body ++ [quote]

theorem IsQuoted.ends (h : IsQuoted s) :
    ∃ quote, isQuote quote = true ∧ s.head? = some quote ∧ s.getLast? = some quote := by
  obtain ⟨quote, body, hq, -, rfl⟩ := h
  exact ⟨quote, hq, rfl, List.getLast?_concat⟩

-- ---------------------------------------------------------------------------
-- Reading strings
-- ---------------------------------------------------------------------------

theorem quotedStrings_nil : quotedStrings [] = [] := by
  rw [quotedStrings]

theorem quotedStrings_cons (hc : isQuote c = false) (rest : Text) :
    quotedStrings (c :: rest) = quotedStrings rest := by
  rw [quotedStrings, if_neg (by simp [hc])]

theorem quotedStrings_append_quoted (h : IsQuoted s) (rest : Text) :
    quotedStrings (s ++ rest) = s :: quotedStrings rest := by
  obtain ⟨quote, body, hq, hb, rfl⟩ := h
  have hc : cut? [quote] (body ++ ([quote] ++ rest)) = some (body, rest) := by
    simpa using cut?_of_not_mem hb [] rest
  rw [List.cons_append, List.cons_append, List.append_assoc, quotedStrings, if_pos hq]
  split
  · next he =>
    rw [hc] at he
    cases he
    rfl
  · next he =>
    rw [hc] at he
    cases he

theorem quotedStrings_unclosed (hq : isQuote quote = true) (h : quote ∉ rest) :
    quotedStrings (quote :: rest) = [] := by
  rw [quotedStrings, if_pos hq]
  split
  · next he =>
    rw [eq_of_cut? he] at h
    simp at h
  · rfl

/-- A text is read to the end character by character and string by string, unless a quote is left
open. -/
@[elab_as_elim]
theorem quotedStrings_induction {motive : Text → Prop} (nil : motive [])
    (plain : ∀ c rest, isQuote c = false → motive rest → motive (c :: rest))
    (string : ∀ s rest, IsQuoted s → motive rest → motive (s ++ rest))
    (unclosed : ∀ quote rest, isQuote quote = true → quote ∉ rest → motive (quote :: rest))
    (text : Text) : motive text := by
  fun_induction quotedStrings text with
  | case1 => exact nil
  | case2 quote rest hq body after hc _ ih =>
    have hs := string (quote :: body ++ [quote]) after ⟨quote, body, hq, not_mem_of_cut? hc, rfl⟩ ih
    rw [eq_of_cut? hc]
    simpa using hs
  | case3 quote rest hq hc =>
    refine unclosed quote rest hq fun hm => ?_
    have ho := (occursIn_iff [quote] rest).mpr ((List.singleton_infix_iff _ _).mpr hm)
    rw [occursIn, hc] at ho
    cases ho
  | case4 c rest hc ih => exact plain c rest (by simpa using hc) ih

theorem isQuoted_of_mem_quotedStrings (h : s ∈ quotedStrings text) : IsQuoted s := by
  induction text using quotedStrings_induction with
  | nil =>
    rw [quotedStrings_nil] at h
    cases h
  | plain c rest hc ih => exact ih (quotedStrings_cons hc rest ▸ h)
  | string first rest hs ih =>
    rw [quotedStrings_append_quoted hs] at h
    rcases List.mem_cons.mp h with rfl | h
    · exact hs
    · exact ih h
  | unclosed quote rest hq hr =>
    rw [quotedStrings_unclosed hq hr] at h
    cases h

-- ---------------------------------------------------------------------------
-- Texts without quotes around
-- ---------------------------------------------------------------------------

theorem quotedStrings_append_left (h : ∀ c ∈ a, isQuote c = false) (b : Text) :
    quotedStrings (a ++ b) = quotedStrings b := by
  induction a with
  | nil => rfl
  | cons c a ih =>
    rw [List.cons_append, quotedStrings_cons (h c List.mem_cons_self),
      ih fun d hd => h d (List.mem_cons_of_mem _ hd)]

theorem quotedStrings_append_right (a : Text) (h : ∀ c ∈ b, isQuote c = false) :
    quotedStrings (a ++ b) = quotedStrings a := by
  induction a using quotedStrings_induction with
  | nil => simpa using quotedStrings_append_left h []
  | plain c rest hc ih => rw [List.cons_append, quotedStrings_cons hc, quotedStrings_cons hc, ih]
  | string s rest hs ih =>
    rw [List.append_assoc, quotedStrings_append_quoted hs, quotedStrings_append_quoted hs, ih]
  | unclosed quote rest hq hr =>
    have hn : quote ∉ rest ++ b := by
      intro hm
      rcases List.mem_append.mp hm with hm | hm
      · exact hr hm
      · simp [h quote hm] at hq
    rw [List.cons_append, quotedStrings_unclosed hq hn, quotedStrings_unclosed hq hr]

theorem quotedStrings_trim (hp : ∀ c, p c = true → isQuote c = false) (text : Text) :
    quotedStrings (trim p text) = quotedStrings text := by
  obtain ⟨front, back, he, hf, hb⟩ := exists_trim p text
  have hf : ∀ c ∈ front, isQuote c = false := fun c hc => hp c (hf c hc)
  have hb : ∀ c ∈ back, isQuote c = false := fun c hc => hp c (hb c hc)
  conv_rhs => rw [he, quotedStrings_append_left hf, quotedStrings_append_right _ hb]

-- ---------------------------------------------------------------------------
-- Texts with no quote left open
-- ---------------------------------------------------------------------------

def ClosesQuotes (text : Text) : Prop := (Nesting.top.behind .roundSquare text).quote = none

theorem closesQuotes_cons_iff (hc : isQuote c = false) (rest : Text) :
    ClosesQuotes (c :: rest) ↔ ClosesQuotes rest := by
  have hq : (Nesting.top.after .roundSquare c).quote = Nesting.top.quote := by
    rw [Nesting.quote_after]
    simp [Nesting.top, hc]
  have hb := Nesting.quote_behind .roundSquare .roundSquare hq rest
  rw [ClosesQuotes, ClosesQuotes, ← hb]
  rfl

theorem closesQuotes_append_quoted_iff (h : IsQuoted s) (rest : Text) :
    ClosesQuotes (s ++ rest) ↔ ClosesQuotes rest := by
  obtain ⟨quote, body, hq, hb, rfl⟩ := h
  have hp : Nesting.passes? .roundSquare none Nesting.top (quote :: body ++ [quote]) =
      some Nesting.top := Nesting.passes?_quoted hq hb
  have hs : Nesting.top.behind .roundSquare (quote :: body ++ [quote]) = Nesting.top :=
    Nesting.foldl_after hp
  rw [ClosesQuotes, ClosesQuotes, Nesting.behind_append, hs]

theorem not_closesQuotes (hq : isQuote quote = true) (h : quote ∉ rest) :
    ¬ ClosesQuotes (quote :: rest) := by
  have hr {nesting : Nesting} (hn : nesting.quote = some quote) :
      (nesting.behind .roundSquare rest).quote = some quote := by
    induction rest generalizing nesting with
    | nil => exact hn
    | cons c rest ih =>
      simp only [List.mem_cons, not_or] at h
      refine ih h.2 ?_
      rw [Nesting.quote_after, hn]
      simp [Ne.symm h.1]
  have ho : (Nesting.top.after .roundSquare quote).quote = some quote := by
    rw [Nesting.quote_after]
    simp [Nesting.top, hq]
  intro hc
  have hs := hr ho
  rw [ClosesQuotes, Nesting.behind, List.foldl_cons] at hc
  rw [Nesting.behind, hc] at hs
  cases hs

theorem quotedStrings_append (h : ClosesQuotes a) (b : Text) :
    quotedStrings (a ++ b) = quotedStrings a ++ quotedStrings b := by
  induction a using quotedStrings_induction with
  | nil => rw [quotedStrings_nil]; rfl
  | plain c rest hc ih =>
    rw [List.cons_append, quotedStrings_cons hc, quotedStrings_cons hc,
      ih ((closesQuotes_cons_iff hc rest).mp h)]
  | string s rest hs ih =>
    rw [List.append_assoc, quotedStrings_append_quoted hs, quotedStrings_append_quoted hs,
      ih ((closesQuotes_append_quoted_iff hs rest).mp h), List.cons_append]
  | unclosed quote rest hq hr => exact absurd h (not_closesQuotes hq hr)

theorem closesQuotes_trim (hp : ∀ c, p c = true → isQuote c = false) (h : ClosesQuotes text) :
    ClosesQuotes (trim p text) := by
  obtain ⟨front, back, he, hf, hb⟩ := exists_trim p text
  have hq (nesting : Nesting) (hn : nesting.IsProper) {outer : Text}
      (ho : ∀ c ∈ outer, p c = true) :
      (nesting.behind .roundSquare outer).quote = nesting.quote :=
    Nesting.quote_behind_of_not_quote hn fun c hc => hp c (ho c hc)
  have hn : (Nesting.top.behind .roundSquare front).IsProper := Nesting.isProper_top.behind front
  rw [ClosesQuotes, he, Nesting.behind_append, Nesting.behind_append, hq _ (hn.behind _) hb,
    Nesting.quote_behind .roundSquare .roundSquare (hq _ Nesting.isProper_top hf)] at h
  exact h

-- ---------------------------------------------------------------------------
-- Strings of the pieces of a text
-- ---------------------------------------------------------------------------

theorem quotedStrings_join {f : Text → Text} {pieces : List Text}
    (hc : Nesting.Cuts .roundSquare ',' Nesting.top pieces)
    (hf : ∀ piece, quotedStrings (f piece) = quotedStrings piece)
    (hq : ∀ piece, ClosesQuotes piece → ClosesQuotes (f piece)) :
    quotedStrings (join [','] (pieces.map f)) = pieces.flatMap quotedStrings := by
  induction pieces with
  | nil => cases hc
  | cons piece more ih =>
    cases hc with
    | last h => rw [List.map_singleton, join_singleton, hf, List.flatMap_singleton]
    | more h ht hr =>
      have hn : more.map f ≠ [] := by
        cases hr <;> exact List.cons_ne_nil _ _
      have hcl : ClosesQuotes (f piece) := hq piece (congrArg Nesting.quote ht)
      rw [List.map_cons, join_cons _ _ hn, List.append_assoc, List.singleton_append,
        quotedStrings_append hcl, hf, quotedStrings_cons (by decide), ih hr, List.flatMap_cons]

theorem flatMap_quotedStrings_splitTop (text : Text) :
    (splitTop ',' text).flatMap quotedStrings = quotedStrings text := by
  have hj := quotedStrings_join (f := id) (Nesting.cuts_split .roundSquare ',' .top text)
    (fun _ => rfl) fun _ h => h
  rw [List.map_id, Nesting.join_split] at hj
  exact hj.symm

-- ---------------------------------------------------------------------------
-- Texts that occur one after the other
-- ---------------------------------------------------------------------------

/-- The texts occur in a text in their order, none of them before the end of the one in front. -/
def OccurInOrder : List Text → Text → Prop
  | [], _ => True
  | s :: more, text => ∃ front back, text = front ++ (s ++ back) ∧ OccurInOrder more back

variable {strings others : List Text}

theorem OccurInOrder.append_left (h : OccurInOrder strings b) (a : Text) :
    OccurInOrder strings (a ++ b) := by
  cases strings with
  | nil => trivial
  | cons s more =>
    obtain ⟨front, back, rfl, hm⟩ := h
    exact ⟨a ++ front, back, by rw [List.append_assoc], hm⟩

theorem OccurInOrder.append (ha : OccurInOrder strings a) (hb : OccurInOrder others b) :
    OccurInOrder (strings ++ others) (a ++ b) := by
  induction strings generalizing a with
  | nil => exact hb.append_left a
  | cons s more ih =>
    obtain ⟨front, back, rfl, hm⟩ := ha
    exact ⟨front, back ++ b, by simp only [List.append_assoc], ih hm⟩

theorem OccurInOrder.infix_of_mem (h : OccurInOrder strings text) (hs : s ∈ strings) : s <:+: text := by
  induction strings generalizing text with
  | nil => cases hs
  | cons first more ih =>
    obtain ⟨front, back, rfl, hm⟩ := h
    rcases List.mem_cons.mp hs with rfl | hs
    · exact ⟨front, back, by rw [List.append_assoc]⟩
    · exact (ih hm hs).trans ⟨front ++ first, [], by simp⟩

theorem occurInOrder_join {f : Text → Text} {g : Text → List Text} (glue : Text)
    {pieces : List Text} (h : ∀ piece ∈ pieces, OccurInOrder (g piece) (f piece)) :
    OccurInOrder (pieces.flatMap g) (join glue (pieces.map f)) := by
  induction pieces with
  | nil => trivial
  | cons piece more ih =>
    have hp := h piece List.mem_cons_self
    have hm := ih fun other ho => h other (List.mem_cons_of_mem _ ho)
    rw [List.flatMap_cons, List.map_cons]
    cases more with
    | nil => simpa using hp
    | cons next more =>
      rw [join_cons _ _ (by simp), List.append_assoc]
      exact hp.append (hm.append_left glue)

theorem occurInOrder_quotedStrings (text : Text) : OccurInOrder (quotedStrings text) text := by
  induction text using quotedStrings_induction with
  | nil =>
    rw [quotedStrings_nil]
    trivial
  | plain c rest hc ih =>
    rw [quotedStrings_cons hc]
    exact ih.append_left [c]
  | string s rest hs ih =>
    rw [quotedStrings_append_quoted hs]
    exact ⟨[], rest, rfl, ih⟩
  | unclosed quote rest hq hr =>
    rw [quotedStrings_unclosed hq hr]
    trivial

end Retheme.Text
