import Retheme.Proofs.Scope.ThemeClass

/-!
# The theme of a scoped rule

A rule that is scoped in the standard way shows its theme: in front of its first
selector stands the class of the theme, up to the first space. So two themes
never share a scoped rule, unless it is an at-rule without selectors, which is
not scoped at all.
-/

namespace Retheme.Scope

variable {rule theme other raw : Text}

def IsScopable (rule : Text) : Prop := ['@'].isPrefixOf rule = true → '{' ∈ rule

instance : Decidable (IsScopable rule) := inferInstanceAs (Decidable (_ → _))

def Owns (theme rule : Text) : Prop := ∃ raw, IsScopable raw ∧ rule = standard raw theme

def leadingClass (selector : Text) : Text := (selector.drop 1).takeWhile (· != ' ')

def shownTheme (rule : Text) : Text :=
  if ['@'].isPrefixOf rule then
    match Text.cut? ['{'] rule with
    | none => []
    | some (_, selectors) => leadingClass (selectors.drop 1)
  else leadingClass rule

theorem exists_prefixed (rule theme : Text) :
    ∃ rest, prefixed rule theme = className theme ++ ' ' :: rest := by
  obtain ⟨first, more, hs⟩ := List.exists_cons_of_ne_nil
    (Nesting.split_ne_nil .roundSquare ',' .top rule.squeezeBlanks)
  rw [prefixed, Text.splitTop, hs, List.map_cons]
  cases more with
  | nil => exact ⟨first.strip, by simp⟩
  | cons second more =>
    rw [Text.join_cons _ _ (by simp), List.append_assoc, List.append_assoc, List.append_assoc]
    exact ⟨_, rfl⟩

theorem leadingClass_prefixed (ht : ' ' ∉ theme) (rule : Text) :
    leadingClass (prefixed rule theme) = theme := by
  obtain ⟨rest, he⟩ := exists_prefixed rule theme
  have hn : ∀ c ∈ theme, (c != ' ') = true := fun c hc => bne_iff_ne.mpr fun he => ht (he ▸ hc)
  rw [he, leadingClass, className, List.cons_append, List.drop_one, List.tail_cons,
    List.takeWhile_append_of_pos hn, List.takeWhile_cons_of_neg (by simp), List.append_nil]

theorem cut?_prelude {prelude selectors : Text} (hc : Text.cut? ['{'] rule = some (prelude, selectors))
    (inner : Text) :
    Text.cut? ['{'] (prelude.strip ++ " \x7b " ++ inner) =
      some (prelude.strip ++ [' '], ' ' :: inner) := by
  have ho : '{' ∉ prelude.strip ++ [' '] := by
    obtain ⟨front, back, he, -, -⟩ := Text.exists_strip prelude
    have hn := Text.not_mem_of_cut? hc
    rw [he] at hn
    simp only [List.mem_append, not_or] at hn ⊢
    exact ⟨hn.2.1, by decide⟩
  have hcut := Text.cut?_of_not_mem ho [] (' ' :: inner)
  simpa using hcut

theorem shownTheme_standard (hr : IsScopable rule) (ht : ' ' ∉ theme) :
    shownTheme (standard rule theme) = theme := by
  rw [standard]
  split
  · next hat =>
    split
    · next hn =>
      -- A scopable at-rule has a brace to be cut at.
      have hi := (Text.occursIn_iff ['{'] rule).mpr ((List.singleton_infix_iff _ _).mpr (hr hat))
      rw [Text.occursIn, hn] at hi
      cases hi
    · next prelude selectors hc =>
      have hp : ['@'].isPrefixOf (prelude.strip ++ " \x7b " ++ prefixed selectors theme) = true := by
        obtain ⟨tail, rfl⟩ := exists_prelude hat hc
        have hb : Text.isBlank '@' = false := by decide
        obtain ⟨stripped, he⟩ := List.head?_eq_some_iff.mp (Text.head?_trim_cons hb tail)
        rw [Text.strip, he]
        simp
      rw [shownTheme, if_pos hp, cut?_prelude hc]
      exact leadingClass_prefixed ht selectors
  · rw [shownTheme, if_neg (not_isPrefixOf_prefixed rule theme)]
    exact leadingClass_prefixed ht rule

theorem Owns.eq (h : Owns theme rule) (h' : Owns other rule) (ht : ' ' ∉ theme) (ho : ' ' ∉ other) :
    theme = other := by
  obtain ⟨raw, hr, rfl⟩ := h
  obtain ⟨raw', hr', he⟩ := h'
  rw [← shownTheme_standard hr ht, he, shownTheme_standard hr' ho]

end Retheme.Scope
