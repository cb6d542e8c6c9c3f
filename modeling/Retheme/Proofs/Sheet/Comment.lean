import Retheme.Proofs.Text.Cut
import Retheme.Sheet.Comment

/-!
# Comments of texts that are put together

A text is closed when every comment that opens in it is closed in it. Comments
of what stands behind a closed text are then found as if it stood alone, unless
the seam itself opens a comment.
-/

namespace Retheme.Sheet

variable {a b body text rest after : Text} {c : Char}

def commentOpen : Text := ['/', '*']

-- ---------------------------------------------------------------------------
-- What a text begins with
-- ---------------------------------------------------------------------------

theorem pieces_plain (h : ¬ (c = '/' ∧ rest.head? = some '*')) :
    pieces (c :: rest) = .plain c :: pieces rest := by
  cases rest with
  | nil => simp [pieces]
  | cons d rest =>
    rw [List.head?_cons, Option.some.injEq] at h
    rw [pieces, if_neg h]

theorem pieces_comment (h : Text.cut? commentClose rest = some (body, after)) :
    pieces ('/' :: '*' :: rest) = .comment body :: pieces after := by
  rw [pieces, if_pos ⟨rfl, rfl⟩]
  split
  · next hc =>
    rw [h] at hc
    cases hc
    rfl
  · next hc => rw [h] at hc; cases hc

theorem blankComments_nil : blankComments [] = [] := by
  simp [blankComments, pieces]

theorem blankComments_cons (hc : c ≠ '/') (rest : Text) :
    blankComments (c :: rest) = c :: blankComments rest := by
  rw [blankComments, pieces_plain fun h => hc h.1]
  rfl

/-- A comment is blanked out up to its first closing delimiter. -/
theorem blankComments_comment (h : Text.occursIn commentClose body = false) (rest : Text) :
    blankComments (commentOpen ++ body ++ commentClose ++ rest) =
      List.replicate (body.length + 4) ' ' ++ blankComments rest := by
  have hc : Text.cut? commentClose (body ++ '*' :: '/' :: rest) = some (body, rest) :=
    Text.cut?_pair (by decide) h rest
  have ht : commentOpen ++ body ++ commentClose ++ rest =
      '/' :: '*' :: (body ++ '*' :: '/' :: rest) := by
    simp [commentOpen, commentClose]
  rw [ht, blankComments, pieces_comment hc]
  rfl

-- ---------------------------------------------------------------------------
-- Texts without comments
-- ---------------------------------------------------------------------------

theorem commentless_cons (hc : c ≠ '/') (h : Text.occursIn commentOpen text = false) :
    Text.occursIn commentOpen (c :: text) = false := by
  rw [Text.occursIn_cons, h, Bool.or_false]
  simp [commentOpen, List.isPrefixOf, Ne.symm hc]

theorem pieces_of_commentless (h : Text.occursIn commentOpen text = false) :
    pieces text = text.map Piece.plain := by
  induction text with
  | nil => simp [pieces]
  | cons c rest ih =>
    rw [Text.occursIn_cons, Bool.or_eq_false_iff] at h
    have hc : ¬ (c = '/' ∧ rest.head? = some '*') := by
      rintro ⟨rfl, hr⟩
      obtain ⟨more, rfl⟩ := List.head?_eq_some_iff.mp hr
      simp [commentOpen] at h
    rw [pieces_plain hc, ih h.2, List.map_cons]

theorem blankComments_eq_self (h : Text.occursIn commentOpen text = false) :
    blankComments text = text := by
  rw [blankComments, pieces_of_commentless h, List.flatMap_map]
  exact List.flatMap_singleton' text

theorem eraseComments_eq_self (h : Text.occursIn commentOpen text = false) :
    eraseComments text = text := by
  rw [eraseComments, pieces_of_commentless h, List.flatMap_map]
  exact List.flatMap_singleton' text

-- ---------------------------------------------------------------------------
-- Closed texts
-- ---------------------------------------------------------------------------

/-- No comment is left open: blanking leaves no opening delimiter. -/
def IsClosed (text : Text) : Prop := Text.occursIn commentOpen (blankComments text) = false

theorem isClosed_of_commentless (h : Text.occursIn commentOpen text = false) : IsClosed text := by
  rwa [IsClosed, blankComments_eq_self h]

theorem head?_blankComments (h : text.head? ≠ some '*') : (blankComments text).head? ≠ some '*' := by
  rw [blankComments]
  fun_cases pieces text with
  | case1 => simp
  | case2 c => simpa [Piece.blanked] using h
  | case3 c d rest hc body after => simp [Piece.blanked, List.replicate_succ]
  | case4 c d rest hc => simpa [Piece.blanked] using h
  | case5 c d rest hc => simpa [Piece.blanked] using h

/-- Pieces behind a closed text are read as if nothing stood in front of them, unless a comment
opens across the seam. -/
theorem pieces_append (ha : IsClosed a) (hs : a.getLast? = some '/' → b.head? ≠ some '*') :
    pieces (a ++ b) = pieces a ++ pieces b := by
  rw [IsClosed, blankComments] at ha
  fun_induction pieces a with
  | case1 => rfl
  | case2 c => exact pieces_plain fun h => hs (by rw [h.1]; rfl) h.2
  | case3 c d rest hc body after hcut _ ih =>
    obtain ⟨rfl, rfl⟩ := hc
    have hl : after.getLast? = some '/' → b.head? ≠ some '*' := by
      intro h
      refine hs ?_
      rw [Text.eq_of_cut? hcut, ← List.cons_append, ← List.cons_append, List.getLast?_append, h,
        Option.some_or]
    rw [List.flatMap_cons] at ha
    rw [List.cons_append, List.cons_append, pieces_comment (Text.cut?_append hcut b),
      ih (Text.occursIn_right_of_append ha) hl]
    rfl
  | case4 c d rest hc hcut ih =>
    -- A comment that is not closed would stay in the blanked text.
    obtain ⟨rfl, rfl⟩ := hc
    have hs : pieces ('*' :: rest) = .plain '*' :: pieces rest := pieces_plain (by simp)
    rw [hs] at ha
    simp [Piece.blanked, Text.occursIn_cons, commentOpen] at ha
  | case5 c d rest hc ih =>
    rw [List.flatMap_cons] at ha
    have hp : pieces (c :: (d :: rest ++ b)) = .plain c :: pieces (d :: rest ++ b) :=
      pieces_plain fun h => hc ⟨h.1, Option.some.inj h.2⟩
    rw [List.cons_append, hp, ih (Text.occursIn_right_of_append ha) (by simpa using hs)]
    rfl

theorem blankComments_append_of_seam (ha : IsClosed a)
    (hs : a.getLast? = some '/' → b.head? ≠ some '*') :
    blankComments (a ++ b) = blankComments a ++ blankComments b := by
  rw [blankComments, pieces_append ha hs, List.flatMap_append]
  rfl

theorem blankComments_append (ha : IsClosed a) (hb : b.head? ≠ some '*') :
    blankComments (a ++ b) = blankComments a ++ blankComments b :=
  blankComments_append_of_seam ha fun _ => hb

theorem getLast?_of_blankComments (h : (blankComments a).getLast? = some c) (hc : c ≠ ' ') :
    a.getLast? = some c := by
  rw [← flatMap_text_pieces a]
  rw [blankComments] at h
  rcases List.eq_nil_or_concat (pieces a) with hn | ⟨front, last, he⟩
  · rw [hn] at h
    cases h
  · rw [he, List.concat_eq_append, List.flatMap_append, List.flatMap_singleton] at h ⊢
    cases last with
    | plain d => simpa [Piece.blanked, Piece.text] using h
    | comment body =>
      rw [Piece.blanked, List.getLast?_append, List.replicate_succ', List.getLast?_append,
        List.getLast?_singleton, Option.some_or, Option.some_or] at h
      exact absurd (Option.some.inj h).symm hc

theorem IsClosed.append (ha : IsClosed a) (hb : IsClosed b) (hh : b.head? ≠ some '*') :
    IsClosed (a ++ b) := by
  rw [IsClosed, blankComments_append ha hh]
  exact Text.occursIn_pair_append ha hb fun _ => head?_blankComments hh

theorem isClosed_comment (h : Text.occursIn commentClose body = false) :
    IsClosed (commentOpen ++ body ++ commentClose) := by
  have hb := blankComments_comment h []
  rw [List.append_nil] at hb
  rw [IsClosed, hb]
  exact Text.occursIn_of_not_mem (by simp [blankComments_nil])

end Retheme.Sheet
