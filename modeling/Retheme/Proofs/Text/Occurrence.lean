import Retheme.Proofs.Text.Cut

/-!
# Occurrences

A pattern occurs at an offset when the text from there on begins with it. A
text is cut at the first occurrence: the pattern occurs behind what stands in
front of the cut, and at no offset before.
-/

namespace Retheme.Text

variable {pattern text before after : Text} {c : Char} {position : Nat}

def OccursAt (pattern text : Text) (position : Nat) : Prop := pattern <+: text.drop position

instance (pattern text : Text) (position : Nat) : Decidable (OccursAt pattern text position) :=
  inferInstanceAs (Decidable (pattern <+: text.drop position))

theorem occursAt_append_length (a b : Text) (position : Nat) :
    OccursAt pattern (a ++ b) (a.length + position) ↔ OccursAt pattern b position := by
  rw [OccursAt, List.drop_length_add_append, OccursAt]

theorem occursAt_length (before pattern after : Text) :
    OccursAt pattern (before ++ pattern ++ after) before.length := by
  rw [OccursAt, List.append_assoc, List.drop_left]
  exact List.prefix_append pattern after

theorem OccursAt.occursIn (h : OccursAt pattern text position) : occursIn pattern text = true :=
  (occursIn_iff pattern text).mpr (h.isInfix.trans (List.drop_suffix position text).isInfix)

theorem OccursAt.getElem?_eq (h : OccursAt (c :: pattern) text position) :
    text[position]? = some c := by
  obtain ⟨rest, hr⟩ := h
  rw [← List.head?_drop, ← hr]
  rfl

theorem OccursAt.length_le (h : OccursAt pattern text position) (hn : pattern ≠ []) :
    position + pattern.length ≤ text.length := by
  have hl := List.IsPrefix.length_le h
  have hp := List.length_pos_iff.mpr hn
  rw [List.length_drop] at hl
  omega

-- ---------------------------------------------------------------------------
-- The first occurrence
-- ---------------------------------------------------------------------------

theorem not_occursAt_of_cut?_eq_none (h : cut? pattern text = none) (position : Nat) :
    ¬ OccursAt pattern text position := by
  intro ho
  have hi := ho.occursIn
  rw [Text.occursIn, h] at hi
  cases hi

theorem not_occursAt_of_cut? (h : cut? pattern text = some (before, after))
    (hp : position < before.length) : ¬ OccursAt pattern text position := by
  induction text generalizing before position with
  | nil =>
    rw [cut?] at h
    split at h
    · cases h
      cases hp
    · cases h
  | cons c rest ih =>
    rw [cut?_cons] at h
    split at h
    · cases h
      cases hp
    · next hn =>
      obtain ⟨⟨b, a⟩, hb, he⟩ := Option.map_eq_some_iff.mp h
      cases he
      cases position with
      | zero => rwa [OccursAt, List.drop_zero, ← List.isPrefixOf_iff_prefix]
      | succ position =>
        rw [OccursAt, List.drop_succ_cons]
        exact ih hb (Nat.lt_of_succ_lt_succ hp)

theorem length_le_of_occursAt (h : cut? pattern text = some (before, after))
    (ho : OccursAt pattern text position) : before.length ≤ position :=
  Nat.le_of_not_lt fun hp => not_occursAt_of_cut? h hp ho

theorem occursIn_of_cut? (hp : pattern ≠ []) (h : cut? pattern text = some (before, after)) :
    occursIn pattern before = false := by
  cases hc : cut? pattern before with
  | none => simp [occursIn, hc]
  | some found =>
    obtain ⟨front, back⟩ := found
    have he := cut?_append hc (pattern ++ after)
    rw [← List.append_assoc, ← eq_of_cut? h, h] at he
    obtain ⟨rfl, -⟩ := Prod.mk.inj (Option.some.inj he)
    have hn : pattern = [] ∧ back = [] := by simpa using eq_of_cut? hc
    exact absurd hn.1 hp

end Retheme.Text
