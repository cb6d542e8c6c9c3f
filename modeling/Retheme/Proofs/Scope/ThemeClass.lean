import Retheme.Proofs.Text.Blank
import Retheme.Proofs.Text.Cut
import Retheme.Proofs.Text.Ends
import Retheme.Proofs.Text.Pieces
import Retheme.Scope

/-!
# Where the class of a theme stands

The standard scope puts the class of the theme into every selector of a rule. A
custom scope puts it into one selector, the one in which the given selector
occurs first, and leaves the others as they are.
-/

namespace Retheme.Scope

variable {theme rule selector piece before after a b added : Text} {c : Char} {mode : ScopeMode}

/-- The class of a theme stands in a selector and does not begin a longer name there. -/
def Carries (theme selector : Text) : Prop :=
  ∃ before after, selector = before ++ className theme ++ after ∧
    ∀ c, after.head? = some c → Text.isNameChar c = false

/-- The selectors of a rule name, behind the prelude of an at-rule. An at-rule without selectors has
none. -/
def selectors (rule : Text) : List Text :=
  if ['@'].isPrefixOf rule then
    match Text.cut? ['{'] rule with
    | none => []
    | some (_, rest) => rest.splitTop ','
  else rule.splitTop ','

-- ---------------------------------------------------------------------------
-- Characters that do not separate
-- ---------------------------------------------------------------------------

abbrev IsPlain (text : Text) : Prop :=
  ∀ c ∈ text, Nesting.isPlain .roundSquare (some ',') c = true

theorem isPlain_of_notMem (h : c ∉ ("\"'()[],".toList : Text)) :
    Nesting.isPlain .roundSquare (some ',') c = true := by
  have hm : c ≠ '"' ∧ c ≠ '\'' ∧ c ≠ '(' ∧ c ≠ ')' ∧ c ≠ '[' ∧ c ≠ ']' ∧ c ≠ ',' := by
    simpa using h
  simp [Nesting.isPlain, Nesting.isQuote, Brackets.roundSquare, hm, Ne.symm hm.2.2.2.2.2.2]

theorem isPlain_of_isNameChar (h : Text.isNameChar c = true) :
    Nesting.isPlain .roundSquare (some ',') c = true := by
  refine isPlain_of_notMem fun hm => ?_
  have hp : ∀ d ∈ ("\"'()[],".toList : Text), d ∈ Text.punctuation := by decide
  exact Text.ne_of_isNameChar h (hp c hm) rfl

theorem isPlain_of_isBlank (h : Text.isBlank c = true) :
    Nesting.isPlain .roundSquare (some ',') c = true := by
  refine isPlain_of_notMem fun hm => ?_
  have hb : ∀ d ∈ ("\"'()[],".toList : Text), Text.isBlank d = false := by decide
  rw [hb c hm] at h
  cases h

theorem isPlain_className (ht : ∀ c ∈ theme, Text.isNameChar c = true) :
    IsPlain (className theme) := by
  intro c hc
  rcases List.mem_cons.mp hc with rfl | hc
  · rfl
  · exact isPlain_of_isNameChar (ht c hc)

theorem separates_comma :
    Nesting.top.separates .roundSquare ',' ',' = true := by
  decide

-- ---------------------------------------------------------------------------
-- Standard scopes
-- ---------------------------------------------------------------------------

theorem carries_prefixed (ht : ∀ c ∈ theme, Text.isNameChar c = true) {lead : Text}
    (hl : IsPlain lead) (hm : piece ∈ (lead ++ prefixed rule theme).splitTop ',') :
    Carries theme piece := by
  have hc := isPlain_className ht
  have hs : IsPlain [' '] := by decide
  have hf : Nesting.Unnoticed .roundSquare ',' fun piece =>
      className theme ++ [' '] ++ Text.strip piece := by
    intro nesting piece hn hw
    have hp : IsPlain (className theme ++ [' ']) := by
      intro c hm
      rcases List.mem_append.mp hm with hm | hm
      · exact hc c hm
      · exact hs c hm
    obtain ⟨hw, hb⟩ := Nesting.trim_unnoticed (fun _ => isPlain_of_isBlank) nesting piece hn hw
    rw [Nesting.isWhole_plain_append_iff hn hp, Nesting.behind_plain_append hn hp]
    exact ⟨hw, hb⟩
  obtain ⟨front, original, -, rfl⟩ := Nesting.mem_split_join
    (Nesting.cuts_split .roundSquare ',' .top rule.squeezeBlanks) separates_comma
    Nesting.isProper_top hf hs hl hm
  refine ⟨front, ' ' :: Text.strip original, by simp, ?_⟩
  rintro c ⟨⟩
  exact Text.isNameChar_of_mem_punctuation ' ' (by decide)

theorem exists_prelude {prelude rest : Text} (hr : ['@'].isPrefixOf rule)
    (hc : Text.cut? ['{'] rule = some (prelude, rest)) : ∃ tail, prelude = '@' :: tail := by
  obtain ⟨text, rfl⟩ := List.isPrefixOf_iff_prefix.mp hr
  have he := Text.eq_of_cut? hc
  cases prelude with
  | nil => cases he
  | cons c tail =>
    cases he
    exact ⟨tail, rfl⟩

theorem head?_prefixed (rule theme : Text) : (prefixed rule theme).head? = some '.' := by
  obtain ⟨first, more, hs⟩ := List.exists_cons_of_ne_nil
    (Nesting.split_ne_nil .roundSquare ',' .top rule.squeezeBlanks)
  rw [prefixed, Text.splitTop, hs, List.map_cons]
  exact Text.head?_join _ rfl

/-- The prelude ends at the first brace, so this is where the scoped name is cut as well. -/
theorem selectors_prelude {prelude rest : Text} (hr : ['@'].isPrefixOf rule)
    (hc : Text.cut? ['{'] rule = some (prelude, rest)) (inner : Text) :
    selectors (prelude.strip ++ " \x7b " ++ inner) =
      Text.splitTop ',' (' ' :: inner) := by
  have ho : '{' ∉ prelude.strip ++ [' '] := by
    obtain ⟨front, back, he, -, -⟩ := Text.exists_strip prelude
    have hn := Text.not_mem_of_cut? hc
    rw [he] at hn
    simp only [List.mem_append, not_or] at hn ⊢
    exact ⟨hn.2.1, by decide⟩
  have he : prelude.strip ++ " \x7b " ++ inner =
      prelude.strip ++ [' '] ++ ['{'] ++ ' ' :: inner := by
    simp
  have hp : ['@'].isPrefixOf (prelude.strip ++ [' '] ++ ['{'] ++ ' ' :: inner) := by
    obtain ⟨tail, rfl⟩ := exists_prelude hr hc
    have hb : Text.isBlank '@' = false := by decide
    obtain ⟨stripped, he⟩ := List.head?_eq_some_iff.mp (Text.head?_trim_cons hb tail)
    rw [Text.strip, he]
    simp
  rw [he, selectors, if_pos hp, Text.cut?_of_not_mem ho]

theorem standard_eq_prefixed (h : rule.head? ≠ some '@') (theme : Text) :
    standard rule theme = prefixed rule theme := by
  rw [standard, if_neg]
  intro hp
  obtain ⟨tail, rfl⟩ := List.isPrefixOf_iff_prefix.mp hp
  exact h rfl

theorem not_isPrefixOf_prefixed (rule theme : Text) : ¬ ['@'].isPrefixOf (prefixed rule theme) := by
  obtain ⟨tail, he⟩ := List.head?_eq_some_iff.mp (head?_prefixed rule theme)
  rw [he]
  simp

theorem carries_standard (ht : ∀ c ∈ theme, Text.isNameChar c = true)
    (hm : piece ∈ selectors (standard rule theme)) : Carries theme piece := by
  rw [standard] at hm
  split at hm
  · next hr =>
    split at hm
    · next hn =>
      rw [selectors, if_pos hr, hn] at hm
      cases hm
    · next prelude rest hc =>
      rw [selectors_prelude hr hc] at hm
      exact @carries_prefixed _ _ _ ht [' '] (by decide) hm
  · rw [selectors, if_neg (not_isPrefixOf_prefixed rule theme)] at hm
    exact @carries_prefixed _ _ _ ht [] (by decide) hm

-- ---------------------------------------------------------------------------
-- Custom scopes
-- ---------------------------------------------------------------------------

def insertion (mode : ScopeMode) (theme : Text) : Text :=
  match mode with
  | .joined => className theme
  | .before => className theme ++ [' ']
  | .after => ' ' :: className theme

/-- Unnoticed characters that are put behind the prelude of an at-rule, or into a rule name without
one, stand in one selector, and no other selector changes. -/
theorem selectors_insert (hp : IsPlain added) (hh : ∀ c, added.head? = some c → c ≠ '@')
    (hn : added ≠ []) (hr : ['@'].isPrefixOf (a ++ b) → '{' ∈ a) :
    ∃ front last first back,
      selectors (a ++ b) = front ++ (last ++ first) :: back ∧
      selectors (a ++ (added ++ b)) = front ++ (last ++ (added ++ first)) :: back ∧
      first <+: b := by
  by_cases hat : ['@'].isPrefixOf (a ++ b)
  · -- The prelude ends within what stands in front of the insertion.
    have ho := hr hat
    obtain ⟨⟨prelude, inner⟩, hc⟩ := Option.isSome_iff_exists.mp
      ((Text.occursIn_iff ['{'] a).mpr ((List.singleton_infix_iff _ _).mpr ho))
    have hat' : ['@'].isPrefixOf (a ++ (added ++ b)) := by
      obtain ⟨tail, rfl⟩ := exists_prelude hat (Text.cut?_append hc b)
      rw [Text.eq_of_cut? hc]
      simp
    obtain ⟨front, last, first, back, hb, hi, hf⟩ :=
      Nesting.split_insert Nesting.isProper_top hp inner b
    refine ⟨front, last, first, back, ?_, ?_, hf⟩
    · rw [selectors, if_pos hat, Text.cut?_append hc]
      exact hb
    · rw [selectors, if_pos hat', Text.cut?_append hc]
      exact hi
  · have hat' : ¬ ['@'].isPrefixOf (a ++ (added ++ b)) := by
      cases a with
      | nil =>
        obtain ⟨c, rest, rfl⟩ := List.exists_cons_of_ne_nil hn
        simpa using (hh c rfl).symm
      | cons c a => simpa using hat
    obtain ⟨front, last, first, back, hb, hi, hf⟩ :=
      Nesting.split_insert Nesting.isProper_top hp a b
    refine ⟨front, last, first, back, ?_, ?_, hf⟩
    · rw [selectors, if_neg hat]
      exact hb
    · rw [selectors, if_neg hat']
      exact hi

theorem custom_of_cut? (h : Text.cut? selector rule = some (before, after)) (mode : ScopeMode)
    (theme : Text) :
    ∃ a b, rule = a ++ b ∧ custom mode rule selector theme = a ++ (insertion mode theme ++ b) ∧
      before <+: a ∧ (mode = .before ∨ b = after) := by
  have he := Text.eq_of_cut? h
  cases mode with
  | before =>
    refine ⟨before, selector ++ after, by simp [he], ?_, List.prefix_refl _, .inl rfl⟩
    simp [custom, Text.replaceFirst, h, combined, insertion]
  | joined =>
    refine ⟨before ++ selector, after, he, ?_, List.prefix_append _ _, .inr rfl⟩
    simp [custom, Text.replaceFirst, h, combined, insertion]
  | after =>
    refine ⟨before ++ selector, after, he, ?_, List.prefix_append _ _, .inr rfl⟩
    simp [custom, Text.replaceFirst, h, combined, insertion]

theorem isPlain_insertion (ht : ∀ c ∈ theme, Text.isNameChar c = true) (mode : ScopeMode) :
    IsPlain (insertion mode theme) := by
  have hc := isPlain_className ht
  intro c hm
  cases mode with
  | joined => exact hc c hm
  | before =>
    rcases List.mem_append.mp hm with hm | hm
    · exact hc c hm
    · rw [List.mem_singleton.mp hm]
      rfl
  | after =>
    rcases List.mem_cons.mp hm with rfl | hm
    · rfl
    · exact hc c hm

/-- A custom scope puts the class into one selector, and leaves the others as they are. -/
theorem selectors_custom (ht : ∀ c ∈ theme, Text.isNameChar c = true)
    (h : Text.cut? selector rule = some (before, after)) (hr : ['@'].isPrefixOf rule → '{' ∈ before)
    (mode : ScopeMode) :
    ∃ front last first back,
      selectors rule = front ++ (last ++ first) :: back ∧
      selectors (custom mode rule selector theme) =
        front ++ (last ++ (insertion mode theme ++ first)) :: back ∧
      (mode = .before ∨ (∀ c, after.head? = some c → Text.isNameChar c = false) →
        Carries theme (last ++ (insertion mode theme ++ first))) := by
  obtain ⟨a, b, rfl, hcustom, hp, hb⟩ := custom_of_cut? h mode theme
  rw [hcustom]
  have hh : ∀ c, (insertion mode theme).head? = some c → c ≠ '@' := by
    cases mode <;> rintro c ⟨⟩ <;> decide
  have hn : insertion mode theme ≠ [] := by
    cases mode <;> simp [insertion, className]
  obtain ⟨front, last, first, back, hs, hi, hf⟩ :=
    selectors_insert (isPlain_insertion ht mode) hh hn fun hat => hp.subset (hr hat)
  refine ⟨front, last, first, back, hs, hi, ?_⟩
  intro hfollow
  -- What follows the class in its selector is what follows it in the whole name.
  have hhead (hm : mode ≠ .before) (c : Char) (hc : first.head? = some c) :
      Text.isNameChar c = false := by
    rw [hb.resolve_left hm] at hf
    obtain ⟨rest, rfl⟩ := hf
    exact hfollow.resolve_left hm c (by rw [List.head?_append, hc, Option.some_or])
  cases mode with
  | before =>
    refine ⟨last, ' ' :: first, by simp [insertion], ?_⟩
    rintro c ⟨⟩
    exact Text.isNameChar_of_mem_punctuation ' ' (by decide)
  | joined => exact ⟨last, first, by simp [insertion], hhead nofun⟩
  | after => exact ⟨last ++ [' '], first, by simp [insertion], hhead nofun⟩

/-- What a mode and a selector make of a rule name. A selector that does not occur in it leaves it
as it is, without the class. Unless the first occurrence begins in a prelude, one selector changes; it
carries the class when that stands in front of the given selector or no name goes on behind it. -/
structure IsRewritten (mode : ScopeMode) (theme rule selector name : Text) : Prop where
  eq : name = custom mode rule selector theme
  absent : ¬ selector <:+: rule → name = rule
  present : ∀ before after, Text.cut? selector rule = some (before, after) →
    (['@'].isPrefixOf rule → '{' ∈ before) →
      ∃ front last first back,
        selectors rule = front ++ (last ++ first) :: back ∧
        selectors name = front ++ (last ++ (insertion mode theme ++ first)) :: back ∧
        (mode = .before ∨ (∀ c, after.head? = some c → Text.isNameChar c = false) →
          Carries theme (last ++ (insertion mode theme ++ first)))

theorem custom_of_not_infix (h : ¬ selector <:+: rule) (mode : ScopeMode) (theme : Text) :
    custom mode rule selector theme = rule := by
  have hn : Text.cut? selector rule = none := by
    rw [← Option.not_isSome_iff_eq_none]
    exact fun hs => h ((Text.occursIn_iff selector rule).mp hs)
  rw [custom, Text.replaceFirst, hn]

theorem isRewritten_custom (ht : ∀ c ∈ theme, Text.isNameChar c = true) (mode : ScopeMode)
    (rule selector : Text) :
    IsRewritten mode theme rule selector (custom mode rule selector theme) where
  eq := rfl
  absent h := custom_of_not_infix h mode theme
  present _ _ hc hp := selectors_custom ht hc hp mode

end Retheme.Scope
