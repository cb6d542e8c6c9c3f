import Retheme.Proofs.Expression.ArgumentList
import Retheme.Proofs.Expression.Mention
import Retheme.Proofs.Text.Members

/-!
# Parentheses are never refused

A call is recognized by its parentheses and quotes alone, and its arguments are
split at brackets of every shape. What is recognized closes its quotes and
balances its parentheses, at every depth of the tree (`callsBalanced`). So where
a text has no brackets but parentheses, the list of arguments is balanced, too,
and nothing is refused, however its parentheses and quotes stand
(`parentheses_never_refused`).
-/

namespace Retheme

-- ---------------------------------------------------------------------------
-- Brackets that are no parentheses
-- ---------------------------------------------------------------------------

namespace Text

def otherBrackets : Text := ['[', ']', '{', '}']

def HasOnlyParentheses (text : Text) : Prop := ∀ c ∈ text, c ∉ otherBrackets

def withoutOthers (text : Text) : Text := text.filter (· ∉ otherBrackets)

variable {text part : Text}

instance : Decidable (HasOnlyParentheses text) :=
  inferInstanceAs (Decidable (∀ c ∈ text, c ∉ otherBrackets))

theorem HasOnlyParentheses.withoutOthers_eq (h : HasOnlyParentheses text) :
    withoutOthers text = text :=
  List.filter_eq_self.mpr fun c hc => decide_eq_true (h c hc)

theorem HasOnlyParentheses.of_subset (h : HasOnlyParentheses text) (hs : ∀ c ∈ part, c ∈ text) :
    HasOnlyParentheses part := fun c hc => h c (hs c hc)

end Text

namespace Nesting

open Text (otherBrackets withoutOthers IsSettled)

variable {nesting : Nesting} {text : Text} {c : Char}

theorem isPlain_round_of_mem (h : c ∈ otherBrackets) : isPlain .round (some ',') c = true := by
  simp only [otherBrackets, List.mem_cons, List.not_mem_nil, or_false] at h
  rcases h with rfl | rfl | rfl | rfl <;> decide

theorem round_eq_all (h : c ∉ otherBrackets) :
    Brackets.round.opens c = Brackets.all.opens c ∧
      Brackets.round.closes c = Brackets.all.closes c := by
  simp only [otherBrackets, List.mem_cons, List.not_mem_nil, or_false, not_or] at h
  simp [Brackets.round, Brackets.all, h]

/-- Reading parentheses in a text is reading all brackets in the text without the others. -/
theorem passes?_round (hn : IsProper nesting) (text : Text) :
    passes? .round none nesting text = passes? .all none nesting (withoutOthers text) := by
  induction text generalizing nesting with
  | nil => rfl
  | cons c rest ih =>
    by_cases hc : c ∈ otherBrackets
    · have hp := isPlain_round_of_mem hc
      have hu : nesting.unopened .round c = false := by
        simp only [isPlain, Bool.and_eq_true, Bool.not_eq_eq_eq_not, Bool.not_true] at hp
        simp [unopened, hp.1.2]
      have hf : withoutOthers (c :: rest) = withoutOthers rest := by simp [withoutOthers, hc]
      rw [passes?, hu, after_plain hn hp, hf, ih hn]
      rfl
    · obtain ⟨ho, hl⟩ := round_eq_all hc
      have hu : nesting.unopened .round c = nesting.unopened .all c := by simp [unopened, ho, hl]
      have ha : nesting.after .round c = nesting.after .all c := by simp [Nesting.after, ho, hl]
      have hf : withoutOthers (c :: rest) = c :: withoutOthers rest := by simp [withoutOthers, hc]
      rw [hf, passes?, passes?, hu, ha, ih (hn.after c)]
      rfl

theorem isSettled_withoutOthers_iff :
    IsSettled (withoutOthers text) ↔ passes? .round none top text = some top := by
  rw [isSettled_iff, passes?_round isProper_top]

end Nesting

namespace Expression

open Nesting
open Text (HasOnlyParentheses IsSettled withoutOthers)

variable {text name inner : Text} {pieces : List Text} {node : Node}

-- ---------------------------------------------------------------------------
-- Trees of arguments
-- ---------------------------------------------------------------------------

/-- What holds of every text that is no call, and of a call when it holds of its arguments, holds
of every text. -/
theorem argument_induction {motive : Text → Prop}
    (leaf : ∀ text, callParts? text = none → motive text)
    (call : ∀ text name inner, callParts? text = some (name, inner) →
      (∀ pieces, splitArguments inner = .ok pieces → ∀ piece ∈ pieces, motive piece) →
      motive text) (text : Text) : motive text := by
  induction hl : text.length using Nat.strongRecOn generalizing text with
  | ind length ih =>
    cases hc : callParts? text with
    | none => exact leaf text hc
    | some parts =>
      refine call text parts.1 parts.2 hc fun pieces hs piece hp => ?_
      have hpiece := length_le_of_mem_splitArguments hs hp
      have hinner := length_lt_of_callParts? hc
      exact ih piece.length (by omega) piece rfl

section

variable {α β ε : Type} {f : α → Except ε β} {items : List α} {results : List β} {result : β}

theorem exists_mapM_eq_ok (h : ∀ item ∈ items, ∃ result, f item = .ok result) :
    ∃ results, items.mapM f = .ok results := by
  induction items with
  | nil => exact ⟨[], rfl⟩
  | cons item items ih =>
    obtain ⟨first, hf⟩ := h item (by simp)
    obtain ⟨rest, hr⟩ := ih fun other ho => h other (by simp [ho])
    exact ⟨first :: rest, by rw [List.mapM_cons, hf, hr]; rfl⟩

theorem exists_of_mem_mapM (h : items.mapM f = .ok results) (hm : result ∈ results) :
    ∃ item ∈ items, f item = .ok result := by
  induction items generalizing results with
  | nil =>
    cases h
    cases hm
  | cons item items ih =>
    rw [List.mapM_cons] at h
    cases hf : f item with
    | error e => rw [hf] at h; cases h
    | ok first =>
      cases hr : items.mapM f with
      | error e => rw [hf, hr] at h; cases h
      | ok rest =>
        rw [hf, hr] at h
        cases h
        rcases List.mem_cons.mp hm with rfl | hm
        · exact ⟨item, by simp, hf⟩
        · obtain ⟨other, ho, he⟩ := ih hr hm
          exact ⟨other, by simp [ho], he⟩

end

theorem leaf_ne_call {args : List Node} {written : Text} : leaf text ≠ .call name args written := by
  rw [leaf]
  split
  · nofun
  · split <;> nofun

-- ---------------------------------------------------------------------------
-- Balanced calls
-- ---------------------------------------------------------------------------

/-- Between the first opening parenthesis of a text and its last character, a closing one, every
quote is closed, and the parentheses outside quotes are balanced: none is closed that is not
open. -/
def IsBalancedCall (text : Text) : Prop :=
  ∃ front inner, text = front ++ '(' :: (inner ++ [')']) ∧ '(' ∉ front ∧
    IsSettled (withoutOthers inner)

/-- Every call in the tree of a text is balanced, and the call that the text itself is has this
text. -/
structure CallsBalanced (text : Text) (node : Node) : Prop where
  own : ∀ name args written, node = .call name args written → written = text
  balanced : ∀ name args written, (Node.call name args written).StandsIn node →
    IsBalancedCall written

theorem isBalancedCall_of_callParts? (h : callParts? text = some (name, inner)) :
    IsBalancedCall text := by
  obtain ⟨head, gap, -, rfl, hp⟩ := exists_of_callParts? h
  refine ⟨head.text ++ gap.text, inner, rfl, fun hm => ?_, isSettled_withoutOthers_iff.mpr hp⟩
  rcases List.mem_append.mp hm with hm | hm
  · exact Text.ne_of_isNameChar (head.toName.nameChars _ hm) (by decide) rfl
  · exact absurd (gap.blank _ hm) (by decide)

theorem callsBalanced (text : Text) :
    ∀ node, parseArgument text = .ok node → CallsBalanced text node := by
  induction text using argument_induction with
  | leaf text hc =>
    intro node h
    rw [parseArgument_of_no_call hc] at h
    cases h
    refine ⟨fun _ _ _ he => absurd he leaf_ne_call, fun name args written hs => ?_⟩
    -- A leaf has nothing in it, so the call would be the leaf.
    generalize hl : leaf text = node at hs
    cases hs with
    | here => exact absurd hl leaf_ne_call
    | inside => exact absurd hl leaf_ne_call
  | call text name inner hc ih =>
    intro node h
    cases hs : splitArguments inner with
    | error e => rw [parseArgument_eq hc, parseArguments, hs] at h; cases h
    | ok pieces =>
      rw [parseArgument_of_call hc hs] at h
      cases hm : pieces.mapM parseArgument with
      | error e => rw [hm] at h; cases h
      | ok args =>
        rw [hm] at h
        cases h
        refine ⟨by rintro _ _ _ ⟨⟩; rfl, fun called given written hstands => ?_⟩
        cases hstands with
        | here => exact isBalancedCall_of_callParts? hc
        | inside harg hstands =>
          obtain ⟨piece, hp, hpiece⟩ := exists_of_mem_mapM hm harg
          exact (ih pieces hs piece hp _ hpiece).balanced _ _ _ hstands

-- ---------------------------------------------------------------------------
-- Texts with parentheses only
-- ---------------------------------------------------------------------------

/-- Both readers of brackets agree on what stands in a call without other brackets. -/
theorem splitArguments_of_parentheses (h : HasOnlyParentheses text)
    (hc : callParts? text = some (name, inner)) : ∃ pieces, splitArguments inner = .ok pieces ∧
      ∀ piece ∈ pieces, HasOnlyParentheses piece := by
  obtain ⟨head, gap, -, rfl, hp⟩ := exists_of_callParts? hc
  have hinner : HasOnlyParentheses inner := h.of_subset fun c hm => by simp [hm]
  rw [passes?_round isProper_top, hinner.withoutOthers_eq] at hp
  refine ⟨_, splitArguments_of_passes hp, fun piece hm => hinner.of_subset fun c hc => ?_⟩
  obtain ⟨raw, hr, rfl⟩ := List.mem_map.mp (mem_of_mem_dropEmptyLast hm)
  exact mem_of_mem_split hr (Text.mem_of_mem_strip hc)

theorem exists_parseArgument (text : Text) :
    HasOnlyParentheses text → ∃ node, parseArgument text = .ok node := by
  induction text using argument_induction with
  | leaf text hc => exact fun _ => ⟨_, parseArgument_of_no_call hc⟩
  | call text name inner hc ih =>
    intro h
    obtain ⟨pieces, hs, hp⟩ := splitArguments_of_parentheses h hc
    obtain ⟨args, hm⟩ := exists_mapM_eq_ok fun piece hm => ih pieces hs piece hm (hp piece hm)
    exact ⟨.call name args text, by rw [parseArgument_of_call hc hs, hm]; rfl⟩

theorem parse_of_call (hc : callParts? text.strip = some (name, inner)) :
    parse text = (parseArguments inner).map fun args => .call name args text.strip := by
  simp only [parse, hc]

/-- A text without brackets but parentheses is parsed, as an argument and as a marker. Whatever is
parsed, the calls in it close their quotes and balance their parentheses. -/
theorem parentheses_never_refused :
    (∀ text, HasOnlyParentheses text →
      (∃ node, parseArgument text = .ok node) ∧ ∃ parsed, parse text = .ok parsed) ∧
    (∀ text node, parseArgument text = .ok node → CallsBalanced text node) ∧
    ∀ text parsed, parse text = .ok parsed → CallsBalanced text.strip parsed.toNode := by
  refine ⟨fun text h => ⟨exists_parseArgument text h, ?_⟩, callsBalanced, fun text parsed h => ?_⟩
  · cases hc : callParts? text.strip with
    | none => exact ⟨.path (text.strip.split '.') text.strip, by simp only [parse, hc]⟩
    | some parts =>
      obtain ⟨node, hn⟩ := exists_parseArgument _ (h.of_subset fun _ => Text.mem_of_mem_strip)
      rw [parseArgument_eq hc] at hn
      rw [parse_of_call hc]
      cases ha : parseArguments parts.2 with
      | error e => rw [ha] at hn; cases hn
      | ok args => exact ⟨_, rfl⟩
  · cases hc : callParts? text.strip with
    | none =>
      simp only [parse, hc, Except.ok.injEq] at h
      subst h
      exact ⟨by rintro _ _ _ ⟨⟩, by rintro _ _ _ ⟨⟩⟩
    | some parts =>
      have hn := parseArgument_eq hc
      rw [parse_of_call hc] at h
      cases ha : parseArguments parts.2 with
      | error e => rw [ha] at h; cases h
      | ok args =>
        rw [ha] at h hn
        cases h
        exact callsBalanced _ _ hn

/-- A parenthesis in quotes does not count; a text that closes one before it opens any is no
call. -/
theorem parentheses_never_refused_quoted :
    (∃ args, parseArgument "tint(')', rgb(0, 0, 0))" =
        .ok (.call "tint" args "tint(')', rgb(0, 0, 0))") ∧
      CallsBalanced "tint(')', rgb(0, 0, 0))" (.call "tint" args "tint(')', rgb(0, 0, 0))")) ∧
    ∃ parsed, parse " f)(('," = .ok parsed ∧ CallsBalanced "f)(('," parsed.toNode := by
  obtain ⟨hparsed, hargument, hmarker⟩ := parentheses_never_refused
  refine ⟨?_, ?_⟩
  · obtain ⟨⟨node, hn⟩, -⟩ := hparsed "tint(')', rgb(0, 0, 0))" (by decide +kernel)
    have hc : callParts? "tint(')', rgb(0, 0, 0))" =
        some ("tint".toList, "')', rgb(0, 0, 0)".toList) := by
      decide +kernel
    have hb := hargument _ _ hn
    rw [parseArgument_eq hc] at hn ⊢
    cases ha : parseArguments "')', rgb(0, 0, 0)" with
    | error e => rw [ha] at hn; cases hn
    | ok args =>
      rw [ha] at hn
      cases hn
      exact ⟨args, rfl, hb⟩
  · obtain ⟨-, parsed, hp⟩ := hparsed " f)(('," (by decide +kernel)
    exact ⟨parsed, hp, hmarker _ _ hp⟩

end Expression

end Retheme
