import Retheme.Proofs.Expression.Written
import Retheme.Proofs.Sheet.SelectorList
import Retheme.Sheet.Declaration
import Retheme.Theme.Basic

/-!
# Flat sheets

Rules one after the other: selectors of words, and declarations, some of which
are marked by a path. What a theme publishes for such a sheet is said here from
the sheet and the theme alone: the markers that lead to a text, by the selectors
they stand under, and of each property the first.
-/

namespace Retheme.Flat

open Expression (Name DottedPath)

-- ---------------------------------------------------------------------------
-- Rules as they are written
-- ---------------------------------------------------------------------------

/-- Letters, digits, low lines, points, number signs, hyphens and greater-than signs. -/
def isSelectorChar (c : Char) : Bool := Text.isWord c || c ∈ ".#->".toList

def isValueChar (c : Char) : Bool := Text.isWord c || c ∈ "#.%-,() ".toList

structure Word where
  text : Text
  ne_nil : text ≠ []
  chars : ∀ c ∈ text, isSelectorChar c = true

structure Selector where
  first : Word
  more : List Word

def Selector.text (selector : Selector) : Text :=
  Text.join [' '] ((selector.first :: selector.more).map Word.text)

def flag (important : Bool) : Text := if important then " !important" else []

structure Declaration where
  path : Option DottedPath
  prop : Name
  value : Text
  important : Bool
  value_chars : ∀ c ∈ value, isValueChar c = true
  fits : (": ".toList ++ value ++ flag important ++ [';']).length ≤ Sheet.importantReach

def markerText : Option DottedPath → Text
  | none => []
  | some path => Sheet.markerOpen ++ path.text ++ Sheet.markerClose ++ [' ']

def Declaration.text (declaration : Declaration) : Text :=
  markerText declaration.path ++ (declaration.prop.text ++ ": " ++ declaration.value ++
    flag declaration.important ++ [';'])

structure Rule where
  gap : Text
  first : Selector
  more : List Selector
  declarations : List Declaration
  gap_blank : ∀ c ∈ gap, Sheet.isSelectorBlank c = true

namespace Rule

variable (rule : Rule)

def selectors : List Text := (rule.first :: rule.more).map Selector.text

def text : Text :=
  rule.gap ++ Text.join ", " rule.selectors ++ " \x7b" ++
    rule.declarations.flatMap (fun declaration => ' ' :: declaration.text) ++ " \x7d"

end Rule

def text (rules : List Rule) : Text := rules.flatMap Rule.text

-- ---------------------------------------------------------------------------
-- What is published
-- ---------------------------------------------------------------------------

/-- A marker that leads to a text: the selectors it stands under, the key of its path, and the
declaration it asks for. -/
structure Resolved where
  selectors : List Text
  key : Text
  prop : Text
  leaf : Text
  important : Bool

def leaf? (theme : Theme) (path : DottedPath) : Option Text :=
  match theme.resolve? path.segments with
  | some (.text leaf) => some leaf
  | _ => none

def Declaration.HasTextLeaf (theme : Theme) (declaration : Declaration) : Prop :=
  ∀ path, declaration.path = some path →
    theme.resolve? path.segments = none ∨ ∃ leaf, theme.resolve? path.segments = some (.text leaf)

def HasTextLeaves (theme : Theme) (rules : List Rule) : Prop :=
  ∀ rule ∈ rules, ∀ declaration ∈ rule.declarations, declaration.HasTextLeaf theme

def Declaration.resolved? (theme : Theme) (selectors : List Text) (declaration : Declaration) :
    Option Resolved :=
  declaration.path.bind fun path => (leaf? theme path).map fun leaf =>
    { selectors
      key := Text.lastPiece '.' path.text
      prop := declaration.prop.text
      leaf
      important := declaration.important }

def Rule.resolved (theme : Theme) (rule : Rule) : List Resolved :=
  rule.declarations.filterMap (Declaration.resolved? theme rule.selectors)

def resolved (theme : Theme) (rules : List Rule) : List Resolved :=
  rules.flatMap (Rule.resolved theme)

def Resolved.declaration (marker : Resolved) : Text :=
  marker.prop ++ ": " ++ marker.leaf ++ flag marker.important ++ [';']

def underClass (theme : Theme) (selectors : List Text) : Text :=
  Text.join ", " (selectors.map fun selector => '.' :: theme.name ++ ' ' :: selector)

def firstsUnder (selectors : List Text) (markers : List Resolved) : List Resolved :=
  let own := markers.filter fun marker => marker.selectors = selectors
  (own.map Resolved.prop).eraseDups.filterMap fun prop => own.find? fun marker => marker.prop = prop

def ruleText (theme : Theme) (markers : List Resolved) (selectors : List Text) : Text :=
  underClass theme selectors ++ " \x7b " ++
    Text.join [' '] ((firstsUnder selectors markers).map Resolved.declaration) ++ " \x7d"

/-- The rules of a style block, one for each list of selectors in the order of their first markers.
Behind each there is a brace for every one that the scoped selectors leave open. -/
def rulesText (theme : Theme) (markers : List Resolved) : Text :=
  (markers.map Resolved.selectors).eraseDups.flatMap fun selectors =>
    ruleText theme markers selectors ++
      List.replicate
        ((underClass theme selectors).count '{' - (underClass theme selectors).count '}') '}' ++
      ['\n']

def fontsText (fonts : Entries Text) : Text :=
  fonts.flatMap fun (family, source) =>
    "@font-face \x7b font-family: " ++ family ++ "; src: url('" ++ source ++ "'); \x7d\n"

-- ---------------------------------------------------------------------------
-- Selectors
-- ---------------------------------------------------------------------------

variable {c : Char}

theorem isBlank_of_isSelectorChar (h : isSelectorChar c = true) : Text.isBlank c = false := by
  rcases (Bool.or_eq_true _ _).mp h with h | h
  · exact Text.isBlank_of_isWord h
  · have hs : ∀ c ∈ ".#->".toList, Text.isBlank c = false := by decide
    exact hs c (of_decide_eq_true h)

def selectorMarks : Text := "\x7b\x7d[]()/*;,'\"@ ".toList

theorem ne_of_isSelectorChar {d : Char} (h : isSelectorChar c = true) (hd : d ∈ selectorMarks) :
    c ≠ d := by
  rcases (Bool.or_eq_true _ _).mp h with h | h
  · have hm : ∀ d ∈ selectorMarks, d ∈ Text.punctuation := by decide
    exact Text.ne_of_isNameChar (Text.isNameChar_of_isWord h) (hm d hd)
  · have hs : ∀ c ∈ ".#->".toList, ∀ d ∈ selectorMarks, c ≠ d := by decide
    exact hs c (of_decide_eq_true h) d hd

theorem Selector.chars (selector : Selector) :
    ∀ c ∈ selector.text, c = ' ' ∨ isSelectorChar c = true := by
  intro c hc
  rcases Text.mem_join hc with hc | ⟨piece, hp, hc⟩
  · exact .inl (List.mem_singleton.mp hc)
  · obtain ⟨word, -, rfl⟩ := List.mem_map.mp hp
    exact .inr (word.chars c hc)

theorem Selector.not_mem_marks (selector : Selector) {d : Char} (hd : d ∈ selectorMarks)
    (hs : d ≠ ' ') : d ∉ selector.text := by
  intro hm
  rcases selector.chars d hm with rfl | hc
  · exact hs rfl
  · exact ne_of_isSelectorChar hc hd rfl

theorem Word.head (word : Word) : ∃ c, word.text.head? = some c ∧ Text.isBlank c = false := by
  cases hw : word.text with
  | nil => exact absurd hw word.ne_nil
  | cons c rest => exact ⟨c, rfl, isBlank_of_isSelectorChar (word.chars c (by simp [hw]))⟩

theorem Word.last (word : Word) : ∃ c, word.text.getLast? = some c ∧ Text.isBlank c = false := by
  obtain ⟨c, hc⟩ := Option.isSome_iff_exists.mp (List.getLast?_isSome.mpr word.ne_nil)
  exact ⟨c, hc, isBlank_of_isSelectorChar (word.chars c (List.mem_of_getLast? hc))⟩

theorem Word.spaced (word : Word) : Text.isSpaced word.text :=
  Text.isSpaced_of_not_blank fun c hc => isBlank_of_isSelectorChar (word.chars c hc)

theorem head_join_words (first : Word) (more : List Word) :
    ∃ c, (Text.join [' '] ((first :: more).map Word.text)).head? = some c ∧
      Text.isBlank c = false := by
  obtain ⟨c, hc, hb⟩ := first.head
  exact ⟨c, Text.head?_join _ hc, hb⟩

theorem last_join_words (first : Word) (more : List Word) :
    ∃ c, (Text.join [' '] ((first :: more).map Word.text)).getLast? = some c ∧
      Text.isBlank c = false := by
  induction more generalizing first with
  | nil => exact first.last
  | cons second more ih =>
    obtain ⟨c, hc, hb⟩ := ih second
    refine ⟨c, ?_, hb⟩
    rw [List.map_cons, Text.join_cons _ _ (by simp), List.getLast?_append, hc, Option.some_or]

theorem isSpaced_join_words (first : Word) (more : List Word) :
    Text.isSpaced (Text.join [' '] ((first :: more).map Word.text)) := by
  induction more generalizing first with
  | nil => exact first.spaced
  | cons second more ih =>
    obtain ⟨c, hc, hb⟩ := head_join_words second more
    obtain ⟨rest, hr⟩ := List.head?_eq_some_iff.mp hc
    have hs := ih second
    rw [hr] at hs
    rw [List.map_cons, Text.join_cons _ _ (by simp), List.append_assoc, hr]
    exact Text.isSpaced_append first.spaced (Text.isSpaced_space hb hs)

theorem Selector.isPlain (selector : Selector) : Sheet.IsPlainSelector selector.text where
  head := head_join_words selector.first selector.more
  last := last_join_words selector.first selector.more
  spaced := isSpaced_join_words selector.first selector.more
  plain := by
    intro c hc
    have hne (d : Char) (hd : d ∈ selectorMarks) (hs : d ≠ ' ') : c ≠ d :=
      fun he => selector.not_mem_marks hd hs (he ▸ hc)
    simp [Nesting.isPlain, Nesting.isQuote, Brackets.roundSquare, hne '\'' (by decide) (by decide),
      hne '"' (by decide) (by decide), hne '(' (by decide) (by decide),
      hne '[' (by decide) (by decide), hne ')' (by decide) (by decide),
      hne ']' (by decide) (by decide), (hne ',' (by decide) (by decide)).symm]
  chars := by
    intro c hc
    refine ⟨?_, ?_, ?_, ?_, ?_, ?_⟩ <;> rintro rfl <;>
      exact selector.not_mem_marks (by decide) (by decide) hc

end Retheme.Flat
