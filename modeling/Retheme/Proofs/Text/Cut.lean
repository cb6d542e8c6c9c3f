import Mathlib.Data.List.Infix
import Retheme.Text.Basic

/-!
# Where a text is cut

`cut?` finds the first occurrence of a pattern. It finds one exactly when the
pattern is an infix of the text, and whatever stands behind the occurrence
plays no part. Two shapes of text are cut where they should be: the first
character of the pattern does not stand in front of the occurrence, or the
pattern is a pair of different characters that does not occur in front of it.
-/

namespace Retheme.Text

variable {pattern text before after rest : Text} {c d : Char}

theorem cut?_cons (pattern rest : Text) (c : Char) :
    cut? pattern (c :: rest) =
      if pattern.isPrefixOf (c :: rest) then some ([], (c :: rest).drop pattern.length)
      else (cut? pattern rest).map fun (before, after) => (c :: before, after) := by
  rw [cut?]

-- ---------------------------------------------------------------------------
-- Whether a pattern occurs
-- ---------------------------------------------------------------------------

theorem occursIn_cons (pattern rest : Text) (c : Char) :
    occursIn pattern (c :: rest) = (pattern.isPrefixOf (c :: rest) || occursIn pattern rest) := by
  simp only [occursIn, cut?_cons]
  split
  · next h => simp [h]
  · next h => simp [h]

theorem occursIn_iff (pattern text : Text) : occursIn pattern text = true ↔ pattern <:+: text := by
  induction text with
  | nil =>
    cases pattern with
    | nil => simp [occursIn, cut?]
    | cons => simp [occursIn, cut?]
  | cons c rest ih =>
    rw [occursIn_cons, Bool.or_eq_true, ih, List.isPrefixOf_iff_prefix, List.infix_cons_iff]

theorem occursIn_eq_false_iff (pattern text : Text) :
    occursIn pattern text = false ↔ ¬ pattern <:+: text := by
  rw [← occursIn_iff, Bool.not_eq_true]

theorem occursIn_right_of_append (h : occursIn pattern (text ++ rest) = false) :
    occursIn pattern rest = false := by
  rw [occursIn_eq_false_iff] at h ⊢
  exact fun hi => h (hi.trans (List.suffix_append text rest).isInfix)

theorem occursIn_of_not_mem (h : c ∉ text) : occursIn (c :: pattern) text = false := by
  rw [occursIn_eq_false_iff]
  exact fun hi => h (hi.subset (by simp))

theorem occursIn_pair_append (ht : occursIn [c, d] text = false) (hr : occursIn [c, d] rest = false)
    (hd : text.getLast? = some c → rest.head? ≠ some d) :
    occursIn [c, d] (text ++ rest) = false := by
  induction text with
  | nil => exact hr
  | cons e text ih =>
    rw [occursIn_cons, Bool.or_eq_false_iff] at ht
    cases text with
    | nil =>
      rw [List.singleton_append, occursIn_cons, hr, Bool.or_false]
      cases rest with
      | nil => exact ht.1
      | cons f rest =>
        have hf : c = e → d ≠ f := fun he hdf => hd (by rw [he]; rfl) (by rw [hdf]; rfl)
        simp only [List.isPrefixOf, Bool.and_true, Bool.and_eq_false_iff, beq_eq_false_iff_ne]
        exact or_iff_not_imp_left.mpr fun he => hf (not_not.mp he)
    | cons f text =>
      have hl : (f :: text).getLast? = some c → rest.head? ≠ some d := by simpa using hd
      rw [List.cons_append, occursIn_cons, ih ht.2 hl, Bool.or_false]
      simpa [List.isPrefixOf] using ht.1

-- ---------------------------------------------------------------------------
-- Where a pattern is found
-- ---------------------------------------------------------------------------

theorem cut?_append (h : cut? pattern text = some (before, after)) (rest : Text) :
    cut? pattern (text ++ rest) = some (before, after ++ rest) := by
  induction text generalizing before with
  | nil =>
    simp only [cut?] at h
    split at h
    · next hp =>
      cases h
      obtain rfl := List.isEmpty_iff.mp hp
      cases rest <;> simp [cut?]
    · cases h
  | cons c text ih =>
    rw [cut?_cons] at h
    rw [List.cons_append, cut?_cons]
    by_cases hp : pattern.isPrefixOf (c :: text)
    · have hq := List.isPrefixOf_iff_prefix.mp hp
      have hr : pattern.isPrefixOf (c :: (text ++ rest)) := by
        rw [List.isPrefixOf_iff_prefix, ← List.cons_append]
        exact hq.trans (List.prefix_append _ _)
      rw [if_pos hp] at h
      cases h
      rw [if_pos hr, ← List.cons_append, List.drop_append_of_le_length hq.length_le]
    · rw [if_neg hp] at h
      obtain ⟨⟨b, a⟩, hb, he⟩ := Option.map_eq_some_iff.mp h
      cases he
      have hr : ¬ pattern.isPrefixOf (c :: (text ++ rest)) := by
        -- The occurrence found in the text is long enough to hold a prefix of the pattern's length.
        intro hr
        apply hp
        rw [List.isPrefixOf_iff_prefix] at hr ⊢
        refine List.prefix_of_prefix_length_le hr ?_ ?_
        · exact List.prefix_append (c :: text) rest
        · have hl := congrArg List.length (eq_of_cut? hb)
          simp only [List.length_append, List.length_cons] at hl ⊢
          omega
      rw [if_neg hr, ih hb]
      rfl

theorem cut?_of_not_mem (h : c ∉ before) (pattern after : Text) :
    cut? (c :: pattern) (before ++ c :: pattern ++ after) = some (before, after) := by
  induction before with
  | nil => simp [cut?]
  | cons d before ih =>
    simp only [List.mem_cons, not_or] at h
    have hp : ¬ (c :: pattern).isPrefixOf (d :: (before ++ c :: pattern ++ after)) := by
      simp [h.1]
    rw [List.cons_append, List.cons_append, cut?_cons, if_neg hp, ih h.2]
    rfl

theorem not_mem_of_cut? (h : cut? [c] text = some (before, after)) : c ∉ before := by
  induction text generalizing before with
  | nil => cases h
  | cons d rest ih =>
    rw [cut?_cons] at h
    split at h
    · cases h
      exact List.not_mem_nil
    · next hp =>
      obtain ⟨⟨b, a⟩, hb, he⟩ := Option.map_eq_some_iff.mp h
      cases he
      have hd : c ≠ d := by simpa using hp
      exact fun hm => (List.mem_cons.mp hm).elim hd (ih hb)

theorem cut?_append_left (h : c ∉ before) (pattern rest : Text) :
    cut? (c :: pattern) (before ++ rest) =
      (cut? (c :: pattern) rest).map fun (inner, after) => (before ++ inner, after) := by
  induction before with
  | nil => simp
  | cons d before ih =>
    simp only [List.mem_cons, not_or] at h
    have hp : ¬ (c :: pattern).isPrefixOf (d :: (before ++ rest)) := by
      simp [h.1]
    rw [List.cons_append, cut?_cons, if_neg hp, ih h.2, Option.map_map]
    rfl

/-- A text in which the pattern does not occur is passed over, when its last character, which is none
of the pattern, keeps an occurrence from crossing the seam. -/
theorem cut?_append_right (h : occursIn pattern before = false)
    (hs : ∀ c, before.getLast? = some c → c ∉ pattern) (rest : Text) :
    cut? pattern (before ++ rest) =
      (cut? pattern rest).map fun (inner, after) => (before ++ inner, after) := by
  induction before with
  | nil => simp
  | cons d before ih =>
    rw [occursIn_cons, Bool.or_eq_false_iff] at h
    have hs' : ∀ c, before.getLast? = some c → c ∉ pattern := by
      cases before with
      | nil => nofun
      | cons => simpa using hs
    have hn : ¬ pattern.isPrefixOf (d :: (before ++ rest)) := by
      rw [List.isPrefixOf_iff_prefix, ← List.cons_append]
      intro hi
      rcases List.prefix_or_prefix_of_prefix hi (List.prefix_append _ _) with hi | hi
      · rw [← List.isPrefixOf_iff_prefix, h.1] at hi
        cases hi
      -- A pattern that reaches over the seam would hold the last character.
      · have hne : d :: before ≠ [] := List.cons_ne_nil _ _
        exact hs _ (List.getLast?_eq_some_getLast hne) (hi.subset (List.getLast_mem hne))
    rw [List.cons_append, cut?_cons, if_neg hn, ih h.2 hs', Option.map_map]
    rfl

theorem cut?_pair (hcd : c ≠ d) (h : occursIn [c, d] before = false) (after : Text) :
    cut? [c, d] (before ++ c :: d :: after) = some (before, after) := by
  induction before with
  | nil => simp [cut?]
  | cons e before ih =>
    rw [occursIn_cons, Bool.or_eq_false_iff] at h
    have hp : ¬ [c, d].isPrefixOf (e :: (before ++ c :: d :: after)) := by
      cases before with
      | nil => simp [Ne.symm hcd]
      | cons f before =>
        have hf := h.1
        simp only [List.isPrefixOf, Bool.and_true, Bool.and_eq_false_iff, beq_eq_false_iff_ne,
          ne_eq] at hf
        simp only [List.cons_append, List.isPrefixOf, Bool.and_true, Bool.and_eq_true, beq_iff_eq,
          not_and]
        exact fun he => hf.resolve_left (· he)
    rw [List.cons_append, cut?_cons, if_neg hp, ih h.2]
    rfl

end Retheme.Text
