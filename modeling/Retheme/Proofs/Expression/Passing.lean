import Mathlib.Tactic.Common
import Retheme.Proofs.Expression.Written

/-!
# Readers pass arguments

Three readers go over the text of a call: one looks for the parenthesis that
closes it and counts round brackets only, one checks that all brackets are
balanced, and one splits at commas. All of them pass an argument as a whole, at
any depth, so one induction over the tree serves them all (`Written.passes`).
What is split at commas is then the list of arguments as they were written.
-/

namespace Retheme.Expression

open Nesting

-- ---------------------------------------------------------------------------
-- Readers pass arguments
-- ---------------------------------------------------------------------------

/-- The readers that go over a call: one looks for the closing parenthesis, one checks that all
brackets are balanced, and one splits at commas. -/
inductive Reads : Brackets → Option Char → Prop
  | closing : Reads .round none
  | balancing : Reads .all none
  | splitting : Reads .all (some ',')

namespace Reads

variable {brackets : Brackets} {separator : Option Char} {text rest : Text} {depth : Nat}

theorem isPlain (hr : Reads brackets separator) {c : Char}
    (h : Nesting.isPlain .all (some ',') c = true) : Nesting.isPlain brackets separator c = true := by
  cases hr with
  | closing =>
    simp only [Nesting.isPlain, Brackets.all, Bool.and_eq_true, Bool.not_eq_eq_eq_not,
      Bool.not_true, Bool.or_eq_false_iff] at h
    obtain ⟨⟨⟨hq, ⟨ho, -⟩, -⟩, ⟨hc, -⟩, -⟩, -⟩ := h
    simp [Nesting.isPlain, Brackets.round, hq, ho, hc]
  | balancing =>
    rw [Nesting.isPlain, Bool.and_eq_true] at h
    simp [Nesting.isPlain, h.1]
  | splitting => exact h

theorem plain (hr : Reads brackets separator)
    (h : ∀ c ∈ text, Nesting.isPlain .all (some ',') c = true) :
    passes? brackets separator ⟨depth, none⟩ text = some ⟨depth, none⟩ :=
  passes?_plain fun c hc => hr.isPlain (h c hc)

theorem blanks (hr : Reads brackets separator) (gap : Blanks) :
    passes? brackets separator ⟨depth, none⟩ gap.text = some ⟨depth, none⟩ :=
  hr.plain fun c hc => isPlain_of_isBlank (gap.blank c hc)

theorem opening (hr : Reads brackets separator) (rest : Text) :
    passes? brackets separator ⟨depth, none⟩ ('(' :: rest) =
      passes? brackets separator ⟨depth + 1, none⟩ rest := by
  cases hr <;> simp [passes?, unopened, separates, after, Brackets.round, Brackets.all, isQuote]

theorem closed (hr : Reads brackets separator) :
    passes? brackets separator ⟨depth + 1, none⟩ [')'] = some ⟨depth, none⟩ := by
  cases hr <;>
    simp [passes?, unopened, separates, after, Brackets.round, Brackets.all, isQuote, top]

theorem comma (hr : Reads brackets separator) (hs : separator = none ∨ 0 < depth) (rest : Text) :
    passes? brackets separator ⟨depth, none⟩ (',' :: rest) =
      passes? brackets separator ⟨depth, none⟩ rest := by
  cases hr with
  | closing => simp [passes?, unopened, after, Brackets.round, isQuote]
  | balancing => simp [passes?, unopened, after, Brackets.all, isQuote]
  | splitting =>
    have hd : depth ≠ 0 := by simpa [Nat.pos_iff_ne_zero] using hs
    simp [passes?, unopened, separates, after, Brackets.all, isQuote, top, hd]

theorem call {inner : Text} (hr : Reads brackets separator) (name : Identifier) (gap : Blanks)
    (hi : passes? brackets separator ⟨depth + 1, none⟩ inner = some ⟨depth + 1, none⟩) :
    passes? brackets separator ⟨depth, none⟩ (name.text ++ gap.text ++ '(' :: (inner ++ [')'])) =
      some ⟨depth, none⟩ := by
  have hn : ∀ c ∈ name.text ++ gap.text, Nesting.isPlain .all (some ',') c = true := by
    intro c hc
    rcases List.mem_append.mp hc with hc | hc
    · exact isPlain_of_isNameChar (name.toName.nameChars c hc)
    · exact isPlain_of_isBlank (gap.blank c hc)
  rw [passes?_append (hr.plain hn), hr.opening, passes?_append hi, hr.closed]

end Reads

mutual
theorem Written.passes {brackets : Brackets} {separator : Option Char}
    (hr : Reads brackets separator) (depth : Nat) : (arg : Written) →
    passes? brackets separator ⟨depth, none⟩ arg.text = some ⟨depth, none⟩
  | .reference name => by
    apply hr.plain
    intro c hc
    simp only [Written.text, Name.asVariable, List.cons_append, List.mem_cons, List.mem_append,
      List.not_mem_nil, or_false] at hc
    rcases hc with rfl | hc | rfl
    · rfl
    · exact isPlain_of_isNameChar (name.nameChars c hc)
    · rfl
  | .path dotted => by
    apply hr.plain
    intro c hc
    rcases dotted.nameChars c hc with rfl | hc
    · rfl
    · exact isPlain_of_isNameChar hc
  | .quoted literal => passes?_quoted literal.isQuote literal.not_mem
  | .bare literal => hr.plain literal.plain
  | .call name gap args =>
    hr.call name gap (args.passes hr (depth + 1) (.inr (Nat.succ_pos depth)))

theorem WrittenList.passes {brackets : Brackets} {separator : Option Char}
    (hr : Reads brackets separator) (depth : Nat) (hs : separator = none ∨ 0 < depth) :
    (args : WrittenList) →
    passes? brackets separator ⟨depth, none⟩ args.text = some ⟨depth, none⟩
  | .none blanks => hr.blanks blanks
  | .last before arg after => by
    rw [WrittenList.text, List.append_assoc, passes?_append (hr.blanks before),
      passes?_append (arg.passes hr depth), hr.blanks after]
  | .more before arg after rest => by
    rw [WrittenList.text, List.append_assoc, List.append_assoc, passes?_append (hr.blanks before),
      passes?_append (arg.passes hr depth), passes?_append (hr.blanks after), hr.comma hs,
      rest.passes hr depth hs]
end

-- ---------------------------------------------------------------------------
-- Stripping and splitting
-- ---------------------------------------------------------------------------

theorem strip_of_ends {c d : Char} (hc : Text.isBlank c = false) (hd : Text.isBlank d = false)
    (inner : Text) : Text.strip (c :: inner ++ [d]) = c :: inner ++ [d] := by
  apply Text.trim_eq_self
  · intro e he
    cases he
    exact hc
  · intro e he
    rw [List.getLast?_append, List.getLast?_singleton, Option.some_or] at he
    cases he
    exact hd

theorem strip_of_not_blank {text : Text} (h : ∀ c ∈ text, Text.isBlank c = false) :
    text.strip = text :=
  Text.trim_eq_self (fun c hc => h c (List.mem_of_head? hc))
    (fun c hc => h c (List.mem_of_getLast? hc))

theorem strip_call (name : Identifier) (gap : Blanks) (inner : Text) :
    Text.strip (name.text ++ gap.text ++ '(' :: (inner ++ [')'])) =
      name.text ++ gap.text ++ '(' :: (inner ++ [')']) := by
  have hn := name.toName.nameChars
  cases ht : name.text with
  | nil => exact absurd ht name.toName.ne_nil
  | cons c rest =>
    have hc : Text.isBlank c = false :=
      Text.isBlank_of_isNameChar (hn c (by simp [Identifier.toName, ht]))
    have he : c :: rest ++ gap.text ++ '(' :: (inner ++ [')']) =
        c :: (rest ++ gap.text ++ '(' :: inner) ++ [')'] := by
      simp
    rw [he]
    exact strip_of_ends hc (by decide) _

theorem Written.strip_text (arg : Written) : arg.text.strip = arg.text := by
  cases arg with
  | reference name => exact strip_of_ends (by decide) (by decide) name.text
  | path dotted =>
    apply strip_of_not_blank
    intro c hc
    rcases dotted.nameChars c hc with rfl | hc
    · rfl
    · exact Text.isBlank_of_isNameChar hc
  | quoted literal =>
    have hq : Text.isBlank literal.quote = false := by
      have h := literal.isQuote
      simp only [isQuote, Bool.or_eq_true, decide_eq_true_eq] at h
      rcases h with h | h <;> rw [h] <;> decide
    exact strip_of_ends hq hq literal.text
  | bare literal => exact literal.strip_eq
  | call name gap args => exact strip_call name gap args.text

theorem Written.text_ne_nil (arg : Written) : arg.text ≠ [] := by
  cases arg with
  | reference name => simp [text, Name.asVariable]
  | path dotted =>
    have := dotted.first.toName.ne_nil
    simp_all [text, DottedPath.text, DottedPath.segments, Text.join, Identifier.toName]
  | quoted literal => simp [text]
  | bare literal => exact literal.ne_nil
  | call name gap args => simp [text]

theorem strip_around {text : Text} (h : text.strip = text) (before after : Blanks) :
    (before.text ++ text ++ after.text).strip = text := by
  rw [Text.strip] at h ⊢
  rw [Text.trim_append_right _ after.blank, Text.trim_append_left before.blank, h]

theorem Written.splits_around (arg : Written) (before after : Blanks) :
    passes? .all (some ',') top (before.text ++ arg.text ++ after.text) = some top := by
  have hr := Reads.splitting
  rw [top, List.append_assoc, passes?_append (hr.blanks before),
    passes?_append (arg.passes hr 0), hr.blanks after]

theorem dropEmptyLast_cons (piece : Text) {pieces : List Text} (hp : pieces ≠ []) :
    dropEmptyLast (piece :: pieces) = piece :: dropEmptyLast pieces := by
  cases pieces with
  | nil => exact absurd rfl hp
  | cons => rfl

theorem dropEmptyLast_append (front : List Text) {pieces : List Text} (hp : pieces ≠ []) :
    dropEmptyLast (front ++ pieces) = front ++ dropEmptyLast pieces := by
  induction front with
  | nil => rfl
  | cons first front ih =>
    rw [List.cons_append, dropEmptyLast_cons _ (List.append_ne_nil_of_right_ne_nil front hp), ih,
      List.cons_append]

/-- Splitting finds the arguments, and nothing behind the last comma. -/
theorem WrittenList.split_text : (args : WrittenList) →
    dropEmptyLast ((top.split .all ',' args.text).map Text.strip) = args.texts
  | .none blanks => by
    have hp : passes? .all (some ',') top blanks.text = some top := Reads.splitting.blanks blanks
    have hs : Text.strip blanks.text = [] := Text.trim_eq_nil blanks.blank
    rw [WrittenList.text, split_eq_singleton hp, List.map_singleton, hs]
    rfl
  | .last before arg after => by
    rw [WrittenList.text, split_eq_singleton (arg.splits_around before after), List.map_singleton,
      strip_around arg.strip_text]
    simp [dropEmptyLast, arg.text_ne_nil, WrittenList.texts]
  | .more before arg after rest => by
    have hn : (top.split .all ',' rest.text).map Text.strip ≠ [] := by
      simpa using split_ne_nil .all ',' top rest.text
    rw [WrittenList.text, split_append_separator (arg.splits_around before after) (by decide),
      List.map_cons, strip_around arg.strip_text, dropEmptyLast_cons _ hn,
      rest.split_text, WrittenList.texts]

theorem WrittenList.splitArguments_text (args : WrittenList) :
    splitArguments args.text = .ok args.texts := by
  have hp : passes? .all Option.none top args.text = some top :=
    args.passes .balancing 0 (.inl rfl)
  rw [splitArguments, firstUnopened?_eq_none hp]
  simp only [foldl_after hp, if_true, args.split_text]

end Retheme.Expression
