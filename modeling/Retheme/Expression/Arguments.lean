import Retheme.Text.Nesting
import Retheme.Text.Blank
import Retheme.Text.Quoted

/-!
# Argument lists

The text between the parentheses of a call is split at the commas outside all
brackets and quotes. Brackets have to be balanced and quotes closed. Every
argument is stripped; an empty last argument does not count.
-/

namespace Retheme

inductive Malformed where
  /-- A bracket is closed that was not open. -/
  | unbalanced (bracket : Char) (arguments : Text)
  /-- A bracket or a quote is still open at the end. -/
  | unterminated (arguments : Text)
  deriving DecidableEq, Repr

def Malformed.message : Malformed → Text
  | unbalanced bracket arguments =>
    "Unbalanced " ++ Text.quoted [bracket] ++ " in arguments: " ++ Text.quoted arguments
  | unterminated arguments => "Unterminated group in arguments: " ++ Text.quoted arguments

namespace Expression

def dropEmptyLast : List Text → List Text
  | [] => []
  | [last] => if last.isEmpty then [] else [last]
  | piece :: pieces => piece :: dropEmptyLast pieces

theorem mem_of_mem_dropEmptyLast {piece : Text} {pieces : List Text}
    (h : piece ∈ dropEmptyLast pieces) : piece ∈ pieces := by
  fun_induction dropEmptyLast pieces with
  | case1 => exact h
  | case2 => simp at h
  | case3 => exact h
  | case4 first rest _ ih =>
    rcases List.mem_cons.mp h with rfl | h
    · simp
    · simp [ih h]

def splitArguments (text : Text) : Except Malformed (List Text) :=
  match Nesting.top.firstUnopened? .all text with
  | some bracket => .error (.unbalanced bracket text)
  | none =>
    if text.foldl (Nesting.after .all) .top = .top then
      .ok (dropEmptyLast ((Nesting.top.split .all ',' text).map Text.strip))
    else .error (.unterminated text)

theorem length_strip_le (text : Text) : text.strip.length ≤ text.length := by
  have hd (p : Char → Bool) (s : Text) : (s.dropWhile p).length ≤ s.length :=
    (List.dropWhile_suffix p).length_le
  simp only [Text.strip, Text.trim, Text.dropEndWhile, List.length_reverse]
  refine Nat.le_trans (hd _ _) ?_
  simpa using hd _ _

theorem length_le_of_mem_splitArguments {text piece : Text} {pieces : List Text}
    (h : splitArguments text = .ok pieces) (hp : piece ∈ pieces) :
    piece.length ≤ text.length := by
  simp only [splitArguments] at h
  split at h
  · cases h
  · split at h
    · cases h
      obtain ⟨raw, hr, rfl⟩ := List.mem_map.mp (mem_of_mem_dropEmptyLast hp)
      exact Nat.le_trans (length_strip_le raw) (Nesting.length_le_of_mem_split hr)
    · cases h

end Expression

end Retheme
