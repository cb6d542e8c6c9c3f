import Retheme.Proofs.Sheet.Property

/-!
# Texts without comments

A text is free of comments when no opening delimiter in it is closed; it may
still hold delimiters of both kinds. Such a text is read as plain characters, so
blanking and erasing keep it. A blanked text is free of comments, and so is what
is left when a part is taken out of such a text, unless a delimiter comes about
at the seam.
-/

namespace Retheme.Sheet

variable {a b gap text rest : Text} {c d : Char}

def IsCommentFree (text : Text) : Prop := ∀ body, ¬ commentOpen ++ body ++ commentClose <:+: text

theorem IsCommentFree.mono (h : IsCommentFree text) (hi : rest <:+: text) : IsCommentFree rest :=
  fun body hb => h body (hb.trans hi)

theorem isCommentFree_of_unclosed (h : Text.occursIn commentClose text = false) :
    IsCommentFree text := by
  intro body hb
  rw [Text.occursIn_eq_false_iff] at h
  exact h ((List.suffix_append _ _).isInfix.trans hb)

theorem isCommentFree_cons (hc : c = '/' → rest.head? ≠ some '*') (h : IsCommentFree rest) :
    IsCommentFree (c :: rest) := by
  intro body hb
  rcases List.infix_cons_iff.mp hb with ⟨tail, ht⟩ | hb
  · obtain ⟨rfl, hr⟩ := List.cons.inj ht
    exact hc rfl (by rw [← hr]; rfl)
  · exact h body hb

theorem isCommentFree_spaces_append (n : Nat) (h : IsCommentFree rest) :
    IsCommentFree (List.replicate n ' ' ++ rest) := by
  induction n with
  | zero => exact h
  | succ n ih => exact isCommentFree_cons (by simp) ih

-- ---------------------------------------------------------------------------
-- Reading
-- ---------------------------------------------------------------------------

theorem IsCommentFree.isPlain (h : IsCommentFree text) : ∀ piece ∈ pieces text, piece.IsPlain := by
  intro piece hp
  cases piece with
  | plain => trivial
  | comment body =>
    obtain ⟨front, back, hs⟩ := List.append_of_mem hp
    refine h body ⟨front.flatMap Piece.text, back.flatMap Piece.text, ?_⟩
    rw [← flatMap_text_pieces text, hs]
    simp [Piece.text, commentOpen]

theorem IsCommentFree.eraseComments (h : IsCommentFree text) : Sheet.eraseComments text = text :=
  eraseComments_of_plain h.isPlain

theorem IsCommentFree.blankComments (h : IsCommentFree text) : Sheet.blankComments text = text := by
  conv_rhs => rw [← flatMap_text_pieces text]
  refine List.flatMap_congr fun piece hp => ?_
  cases piece with
  | plain => rfl
  | comment => exact (h.isPlain _ hp).elim

/-- No comment is left in a text that is blanked, nor does one come about. -/
theorem isCommentFree_blankComments (text : Text) : IsCommentFree (blankComments text) := by
  rw [Sheet.blankComments]
  fun_induction pieces text with
  | case1 => exact isCommentFree_of_unclosed rfl
  | case2 c => exact isCommentFree_cons (by simp) (isCommentFree_of_unclosed rfl)
  | case3 c d rest hc body after hcut _ ih => exact isCommentFree_spaces_append _ ih
  | case4 c d rest hc hcut ih =>
    -- Nothing behind an opening delimiter that is not closed is blanked.
    obtain ⟨rfl, rfl⟩ := hc
    have hu : Text.occursIn commentClose rest = false := by
      rw [Text.occursIn, hcut]
      rfl
    have hr : IsCommentFree ('*' :: rest) :=
      isCommentFree_cons (by simp) (isCommentFree_of_unclosed hu)
    have hs : (pieces ('*' :: rest)).flatMap Piece.blanked = '*' :: rest := hr.blankComments
    rw [List.flatMap_cons, hs]
    intro body hb
    rcases List.infix_cons_iff.mp hb with ⟨tail, ht⟩ | hb
    · have ht : body ++ commentClose ++ tail = rest := by simpa [commentOpen] using ht
      rw [Text.occursIn_eq_false_iff] at hu
      exact hu ⟨body, tail, ht⟩
    · exact hr body hb
  | case5 c d rest hc ih =>
    refine isCommentFree_cons ?_ ih
    rintro rfl
    have hd : (d :: rest).head? ≠ some '*' := by simpa using hc
    exact head?_blankComments hd

theorem blankComments_blankComments (text : Text) :
    blankComments (blankComments text) = blankComments text :=
  (isCommentFree_blankComments text).blankComments

-- ---------------------------------------------------------------------------
-- Taking a part out
-- ---------------------------------------------------------------------------

theorem pair_append_cases {front back : Text} (h : a ++ b = front ++ c :: d :: back) :
    (∃ middle, a = front ++ c :: d :: middle ∧ back = middle ++ b) ∨
      (∃ middle, front = a ++ middle ∧ b = middle ++ c :: d :: back) ∨
      a.getLast? = some c ∧ b.head? = some d := by
  rcases List.append_eq_append_iff.mp h with ⟨middle, rfl, hb⟩ | ⟨middle, rfl, hm⟩
  · exact .inr (.inl ⟨middle, rfl, hb⟩)
  · rcases middle with _ | ⟨e, _ | ⟨f, middle⟩⟩
    · exact .inr (.inl ⟨[], by simp, hm.symm⟩)
    · obtain ⟨rfl, rfl⟩ : c = e ∧ d :: back = b := by simpa using hm
      exact .inr (.inr ⟨by simp, rfl⟩)
    · obtain ⟨rfl, rfl, hback⟩ : c = e ∧ d = f ∧ back = middle ++ b := by simpa using hm
      exact .inl ⟨middle, rfl, hback⟩

/-- What is taken out may have stood in a comment, but it does not make one by being away. -/
theorem IsCommentFree.takeOut (h : IsCommentFree (a ++ (gap ++ b)))
    (ho : a.getLast? = some '/' → b.head? ≠ some '*')
    (hc : a.getLast? = some '*' → b.head? ≠ some '/') : IsCommentFree (a ++ b) := by
  rintro body ⟨front, back, hb⟩
  have hopen : a ++ b = front ++ '/' :: '*' :: (body ++ '*' :: '/' :: back) := by
    simp [← hb, commentOpen, commentClose]
  rcases pair_append_cases hopen with ⟨middle, rfl, hr⟩ | ⟨middle, rfl, rfl⟩ | ⟨hl, hh⟩
  · rcases pair_append_cases hr.symm with ⟨inner, rfl, rfl⟩ | ⟨inner, rfl, rfl⟩ | ⟨hl, hh⟩
    · exact h body ⟨front, inner ++ (gap ++ b), by simp [commentOpen, commentClose]⟩
    · exact h (middle ++ (gap ++ inner)) ⟨front, back, by simp [commentOpen, commentClose]⟩
    · refine hc ?_ hh
      obtain ⟨inner, rfl⟩ := List.getLast?_eq_some_iff.mp hl
      simp [List.getLast?_append, List.getLast?_cons]
  · exact h body ⟨a ++ gap ++ middle, back, by simp [commentOpen, commentClose]⟩
  · exact ho hl hh

end Retheme.Sheet
