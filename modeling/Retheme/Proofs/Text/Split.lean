import Retheme.Text.Basic

/-!
# Splitting what was joined

Pieces without the separator come back when their join is split. The join of
pieces has no other characters than theirs and the separator's.
-/

namespace Retheme.Text

variable {separator c : Char} {piece text : Text} {pieces : List Text}

@[simp]
theorem join_singleton (glue piece : Text) : join glue [piece] = piece := rfl

theorem join_cons (glue piece : Text) (hp : pieces ≠ []) :
    join glue (piece :: pieces) = piece ++ glue ++ join glue pieces := by
  cases pieces with
  | nil => exact absurd rfl hp
  | cons => rfl

theorem head?_join (glue : Text) (h : piece.head? = some c) :
    (join glue (piece :: pieces)).head? = some c := by
  obtain ⟨rest, rfl⟩ := List.head?_eq_some_iff.mp h
  cases pieces <;> rfl

theorem mem_join {glue : Text} (h : c ∈ join glue pieces) :
    c ∈ glue ∨ ∃ piece ∈ pieces, c ∈ piece := by
  induction pieces with
  | nil => simp [join] at h
  | cons first rest ih =>
    cases rest with
    | nil => exact .inr ⟨first, by simp, h⟩
    | cons second more =>
      rw [join_cons glue first (by simp), List.mem_append, List.mem_append] at h
      rcases h with (h | h) | h
      · exact .inr ⟨first, by simp, h⟩
      · exact .inl h
      · rcases ih h with h | ⟨piece, hp, h⟩
        · exact .inl h
        · exact .inr ⟨piece, List.mem_cons_of_mem _ hp, h⟩

theorem infix_join (glue : Text) (h : piece ∈ pieces) : piece <:+: join glue pieces := by
  induction pieces with
  | nil => cases h
  | cons first rest ih =>
    rcases List.mem_cons.mp h with rfl | h
    · cases rest with
      | nil => exact List.infix_refl _
      | cons next more => exact ⟨[], glue ++ join glue (next :: more), by simp [join]⟩
    · rw [join_cons _ _ (List.ne_nil_of_mem h)]
      exact (ih h).trans (List.suffix_append _ _).isInfix

theorem length_join_replace (glue piece other : Text) (front back : List Text) :
    (join glue (front ++ piece :: back)).length + other.length =
      (join glue (front ++ other :: back)).length + piece.length := by
  induction front with
  | nil =>
    cases back with
    | nil => exact Nat.add_comm _ _
    | cons next more =>
      simp only [List.nil_append, join_cons _ _ (List.cons_ne_nil next more), List.length_append]
      omega
  | cons first front ih =>
    simp only [List.cons_append, ne_eq, List.append_eq_nil_iff, reduceCtorEq, and_false,
      not_false_eq_true, join_cons, List.length_append]
    omega

theorem split_of_not_mem (h : separator ∉ text) : split separator text = [text] := by
  induction text with
  | nil => rfl
  | cons c rest ih =>
    simp only [List.mem_cons, not_or] at h
    simp [split, ih h.2, Ne.symm h.1]

theorem split_append_cons (h : separator ∉ piece) (text : Text) :
    split separator (piece ++ separator :: text) = piece :: split separator text := by
  induction piece with
  | nil => simp [split]
  | cons c piece ih =>
    simp only [List.mem_cons, not_or] at h
    simp [split, ih h.2, Ne.symm h.1]

theorem exists_split_append (h : separator ∉ piece) (text : Text) :
    ∃ front last, split separator (text ++ piece) = front ++ [last ++ piece] := by
  induction text with
  | nil => exact ⟨[], [], split_of_not_mem h⟩
  | cons c rest ih =>
    obtain ⟨front, last, hs⟩ := ih
    by_cases hc : c = separator
    · exact ⟨[] :: front, last, by simp [split, hc, hs]⟩
    · cases front with
      | nil => exact ⟨[], c :: last, by simp [split, hc, hs]⟩
      | cons first front => exact ⟨(c :: first) :: front, last, by simp [split, hc, hs]⟩

theorem not_mem_of_mem_split (h : piece ∈ split separator text) : separator ∉ piece := by
  induction text generalizing piece with
  | nil => simp_all [split]
  | cons c rest ih =>
    simp only [split] at h
    split at h
    · rcases List.mem_cons.mp h with rfl | h
      · exact List.not_mem_nil
      · exact ih h
    · next hc =>
      cases hs : split separator rest with
      | nil => exact absurd hs (split_ne_nil separator rest)
      | cons first more =>
        rw [hs] at h ih
        rcases List.mem_cons.mp h with rfl | h
        · exact fun hm => (List.mem_cons.mp hm).elim (Ne.symm hc) (ih List.mem_cons_self)
        · exact ih (List.mem_cons_of_mem _ h)

theorem prefix_join (glue : Text) (pieces more : List Text) :
    join glue pieces <+: join glue (pieces ++ more) := by
  induction pieces with
  | nil => exact List.nil_prefix
  | cons first rest ih =>
    cases rest with
    | nil =>
      cases more with
      | nil => exact List.prefix_rfl
      | cons next more =>
        rw [List.singleton_append, join_cons glue first (List.cons_ne_nil next more),
          join_singleton, List.append_assoc]
        exact List.prefix_append ..
    | cons second rest =>
      rw [List.cons_append, join_cons glue first (by simp), join_cons glue first (by simp)]
      exact (List.prefix_append_right_inj _).mpr ih

theorem split_join (hn : pieces ≠ []) (h : ∀ piece ∈ pieces, separator ∉ piece) :
    split separator (join [separator] pieces) = pieces := by
  induction pieces with
  | nil => exact absurd rfl hn
  | cons first rest ih =>
    cases rest with
    | nil => exact split_of_not_mem (h first (by simp))
    | cons second more =>
      rw [join_cons _ _ (by simp), List.append_assoc, List.singleton_append,
        split_append_cons (h first (by simp)),
        ih (by simp) fun piece hp => h piece (List.mem_cons_of_mem _ hp)]

end Retheme.Text
