import Retheme.Text.Basic

/-!
# Comments

A style sheet is read from the front as single characters and comments. A
comment begins at the first `/*` and ends at the first `*/` after it; a `/*`
that is never closed is plain text. Comments are blanked out by spaces, which
keeps every offset, or erased.
-/

namespace Retheme.Sheet

/-- A character outside all comments, or a comment with the text between its delimiters. -/
inductive Piece where
  | plain (c : Char)
  | comment (body : Text)
  deriving DecidableEq, Repr

def commentClose : Text := ['*', '/']

def pieces : Text → List Piece
  | [] => []
  | [c] => [.plain c]
  | c :: d :: rest =>
    if c = '/' ∧ d = '*' then
      match h : Text.cut? commentClose rest with
      | some (body, after) =>
        have := Text.length_lt_of_cut? (by simp [commentClose]) h
        .comment body :: pieces after
      | none => .plain c :: pieces (d :: rest)
    else .plain c :: pieces (d :: rest)
termination_by text => text.length
decreasing_by
  all_goals simp only [List.length_cons]
  all_goals omega

namespace Piece

def text : Piece → Text
  | plain c => [c]
  | comment body => '/' :: '*' :: body ++ commentClose

def blanked : Piece → Text
  | plain c => [c]
  | comment body => List.replicate (body.length + 4) ' '

def erased : Piece → Text
  | plain c => [c]
  | comment _ => []

theorem length_blanked (piece : Piece) : piece.blanked.length = piece.text.length := by
  cases piece with
  | plain => rfl
  | comment body => simp [blanked, text, commentClose]

end Piece

theorem flatMap_text_pieces (text : Text) : (pieces text).flatMap Piece.text = text := by
  fun_induction pieces text with
  | case1 => rfl
  | case2 => rfl
  | case3 c d rest hc body after h _ ih =>
    obtain ⟨rfl, rfl⟩ := hc
    simp [Piece.text, ih, Text.eq_of_cut? h]
  | case4 c d rest hc h ih => simp [Piece.text, ih]
  | case5 c d rest hc ih => simp [Piece.text, ih]

def blankComments (text : Text) : Text := (pieces text).flatMap Piece.blanked

def eraseComments (text : Text) : Text := (pieces text).flatMap Piece.erased

theorem length_blankComments (text : Text) : (blankComments text).length = text.length := by
  have h := congrArg List.length (flatMap_text_pieces text)
  simp only [List.length_flatMap] at h
  simpa [blankComments, List.length_flatMap, Piece.length_blanked] using h

end Retheme.Sheet
