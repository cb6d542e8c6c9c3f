import Retheme.Proofs.Sheet.CommentFree
import Retheme.Proofs.Sheet.QuotedSelector
import Retheme.Proofs.Sheet.RuleName

/-!
# Names that are canonical already

The canonical name of a text without comments is its own canonical name: no
comment comes about when spaces are squeezed and selectors are trimmed, and the
trimmed selectors come apart where they were joined, also behind a bracket or a
quote that is left open. The names of rules are read from blanked texts and so
are of this kind.
-/

namespace Retheme.Sheet

variable {a b text piece raw name front : Text}

-- ---------------------------------------------------------------------------
-- No comment comes about
-- ---------------------------------------------------------------------------

theorem isCommentFree_append_squeezeSpaces (h : IsCommentFree (a ++ text)) :
    IsCommentFree (a ++ squeezeSpaces text) := by
  fun_induction squeezeSpaces text generalizing a with
  | case1 rest ih =>
    have h : IsCommentFree (a ++ ([' '] ++ ' ' :: rest)) := h
    exact ih (h.takeOut (by simp) (by simp))
  | case2 c rest _ ih =>
    rw [List.append_cons] at h ⊢
    exact ih h
  | case3 => exact h

def KeepsApart (a b : Text) : Prop :=
  (a.getLast? ≠ some '/' ∧ a.getLast? ≠ some '*') ∨ (b.head? ≠ some '/' ∧ b.head? ≠ some '*')

theorem IsCommentFree.takeOut_of_keepsApart {gap : Text} (h : IsCommentFree (a ++ (gap ++ b)))
    (hk : KeepsApart a b) : IsCommentFree (a ++ b) := by
  rcases hk with ⟨hs, hp⟩ | ⟨hs, hp⟩
  · exact h.takeOut (fun hl => absurd hl hs) fun hl => absurd hl hp
  · exact h.takeOut (fun _ => hp) fun _ => hs

theorem isCommentFree_append_trim (h : IsCommentFree (a ++ (piece ++ b)))
    (ha : a.getLast? ≠ some '/' ∧ a.getLast? ≠ some '*')
    (hb : b.head? ≠ some '/' ∧ b.head? ≠ some '*') :
    IsCommentFree (a ++ (Text.trim isSelectorBlank piece ++ b)) := by
  obtain ⟨front, back, he, -, -⟩ := Text.exists_trim isSelectorBlank piece
  rw [he, List.append_assoc] at h
  have hfront := h.takeOut_of_keepsApart (.inl ha)
  rw [List.append_assoc, ← List.append_assoc a] at hfront
  have hback := hfront.takeOut_of_keepsApart (.inr hb)
  rwa [List.append_assoc] at hback

theorem isCommentFree_append_join {pieces : List Text}
    (ha : a.getLast? ≠ some '/' ∧ a.getLast? ≠ some '*')
    (h : IsCommentFree (a ++ Text.join [','] pieces)) :
    IsCommentFree (a ++ Text.join [','] (pieces.map (Text.trim isSelectorBlank))) := by
  induction pieces generalizing a with
  | nil => exact h
  | cons piece rest ih =>
    cases rest with
    | nil => simpa using isCommentFree_append_trim (b := []) (by simpa using h) ha (by simp)
    | cons next more =>
      rw [Text.join_cons _ _ (by simp), List.append_assoc] at h
      have ht := isCommentFree_append_trim h ha (by simp)
      have hassoc :
          a ++ (Text.trim isSelectorBlank piece ++ ([','] ++ Text.join [','] (next :: more))) =
            a ++ Text.trim isSelectorBlank piece ++ [','] ++ Text.join [','] (next :: more) := by
        simp
      rw [hassoc] at ht
      have hr := ih (by simp) ht
      rw [List.map_cons, Text.join_cons _ _ (by simp)]
      simpa using hr

theorem isCommentFree_canonicalName (h : IsCommentFree raw) :
    IsCommentFree (canonicalName raw) := by
  have hs : IsCommentFree (squeezeSpaces raw) := isCommentFree_append_squeezeSpaces (a := []) h
  rw [← Nesting.join_split .roundSquare ',' .top (squeezeSpaces raw)] at hs
  rw [canonicalName, h.eraseComments]
  exact isCommentFree_append_join (a := []) (by simp) hs

-- ---------------------------------------------------------------------------
-- Nothing is left to do
-- ---------------------------------------------------------------------------

theorem trim_trim (p : Char → Bool) (text : Text) :
    Text.trim p (Text.trim p text) = Text.trim p text :=
  Text.trim_eq_self (fun _ => Text.head?_trim) fun _ => Text.getLast?_trim

theorem splitTop_canonicalName (raw : Text) :
    Text.splitTop ',' (canonicalName raw) =
      (Text.splitTop ',' (squeezeSpaces (eraseComments raw))).map (Text.trim isSelectorBlank) := by
  have hcuts := Nesting.cuts_split .roundSquare ',' .top (squeezeSpaces (eraseComments raw))
  have htrim := hcuts.map Nesting.isProper_top
    (Nesting.trim_unnoticed fun _ => isPlain_of_isSelectorBlank)
  exact htrim.split_join rfl

structure IsCanonical (name : Text) : Prop where
  fixed : canonicalName name = name
  commentFree : IsCommentFree name
  spaces : ¬ [' ', ' '] <:+: name
  trimmed : ∀ piece ∈ Text.splitTop ',' name,
    (∀ c, piece.head? = some c → isSelectorBlank c = false) ∧
      ∀ c, piece.getLast? = some c → isSelectorBlank c = false

theorem isCanonical_canonicalName (h : IsCommentFree raw) : IsCanonical (canonicalName raw) where
  fixed := by
    have hmap : ∀ pieces : List Text, (pieces.map (Text.trim isSelectorBlank)).map
        (Text.trim isSelectorBlank) = pieces.map (Text.trim isSelectorBlank) := by
      simp [trim_trim]
    rw [canonicalName, (isCommentFree_canonicalName h).eraseComments,
      squeezeSpaces_eq_self (occursIn_canonicalName raw), splitTop_canonicalName, hmap,
      canonicalName]
  commentFree := isCommentFree_canonicalName h
  spaces := (Text.occursIn_eq_false_iff _ _).mp (occursIn_canonicalName raw)
  trimmed := by
    rw [splitTop_canonicalName]
    intro piece hp
    obtain ⟨original, -, rfl⟩ := List.mem_map.mp hp
    exact ⟨fun _ => Text.head?_trim, fun _ => Text.getLast?_trim⟩

/-- In other texts a comment may come about where one is dropped. -/
example : canonicalName "//* a */* b */c" = "/* b */c" ∧ canonicalName "/* b */c" = "c" := by
  decide +kernel

-- ---------------------------------------------------------------------------
-- The names of rules
-- ---------------------------------------------------------------------------

theorem fromAt_infix (text : Text) : fromAt text <:+: text := by
  by_cases hm : '@' ∈ text
  · obtain ⟨front, back, rfl, hb⟩ := Text.exists_last hm
    rw [fromAt_append_cons front hb]
    exact (List.suffix_append _ _).isInfix
  · simp [fromAt, hm]

theorem afterRule_infix (text : Text) : afterRule text <:+: text :=
  ⟨_, [], by rw [List.append_nil, afterRule, Text.dropEndWhile_append_takeEndWhile]⟩

theorem isCanonical_nil : IsCanonical [] := by
  have h : IsCanonical (canonicalName []) :=
    isCanonical_canonicalName (isCommentFree_of_unclosed rfl)
  have hn : canonicalName [] = [] := by decide +kernel
  rwa [hn] at h

theorem isCanonical_beforeBrace {stop : Nat} (nested : Bool)
    (h : beforeBrace? ((blankComments text).take stop) = some front) :
    IsCanonical (canonicalName (if nested then fromAt front else afterRule front)) := by
  obtain ⟨back, ht⟩ := beforeBrace?_eq_some h
  have hfront : front <:+: blankComments text := by
    refine List.IsInfix.trans ⟨[], '{' :: back, ?_⟩ (List.take_prefix stop _).isInfix
    simp [ht]
  have hname : (if nested then fromAt front else afterRule front) <:+: front := by
    cases nested
    · exact afterRule_infix front
    · exact fromAt_infix front
  exact isCanonical_canonicalName ((isCommentFree_blankComments text).mono (hname.trans hfront))

/-- Every name of a rule is canonical, at whatever offset it is read and whether or not the rule is
taken to be nested in an at-rule. -/
theorem ruleName_canonical (source : Text) :
    (∀ position nested, IsCanonical (ruleNameUpTo source position nested)) ∧
      ∀ position, IsCanonical (ruleNameAt source position) := by
  refine ⟨fun position nested => ?_, fun position => ?_⟩
  · rw [ruleNameUpTo]
    split
    · exact isCanonical_nil
    · next h => exact isCanonical_beforeBrace nested h
  · rw [ruleNameAt]
    split
    · exact isCanonical_nil
    · next front h => exact isCanonical_beforeBrace (insideAtRule front) h

end Retheme.Sheet
