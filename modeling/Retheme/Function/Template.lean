import Retheme.Function.Length

/-!
# Templates

A template holds tokens, a percent sign and decimal digits, that stand for the
arguments behind it. All tokens are found before any of them is replaced, so
what is put in is never looked at again.
-/

namespace Retheme.Function

inductive Chunk where
  | plain (c : Char)
  | token (digits : Text)
  deriving DecidableEq, Repr

def Chunk.text : Chunk → Text
  | plain c => [c]
  | token digits => '%' :: digits

/-- The characters and tokens of a template in order. A token has at least one digit and as many
as follow. -/
def chunks : Text → List Chunk
  | [] => []
  | c :: rest =>
    let digits := rest.takeWhile Text.isAsciiDigit
    if c = '%' && !digits.isEmpty then .token digits :: chunks (rest.dropWhile Text.isAsciiDigit)
    else .plain c :: chunks rest
termination_by text => text.length
decreasing_by
  all_goals
    simp only [List.length_cons]
    have := (List.dropWhile_suffix Text.isAsciiDigit (l := rest)).length_le
    omega

theorem flatMap_text_chunks (text : Text) : (chunks text).flatMap Chunk.text = text := by
  fun_induction chunks text with
  | case1 => rfl
  | case2 c rest digits h ih =>
    simp only [Bool.and_eq_true, decide_eq_true_eq] at h
    simp [Chunk.text, ih, h.1, digits]
  | case3 c rest digits h ih => simp [Chunk.text, ih]

/-- What stands for a chunk. A token without an argument stays as it is written. -/
def expand (args : List Value) : Chunk → Except Failure Text
  | .plain c => .ok [c]
  | .token digits => do
    let index ← Integer.read digits
    match if index = 0 then none else args[index]? with
    | none => return Chunk.text (.token digits)
    | some .null => return Chunk.text (.token digits)
    | some value => declaredOrEmpty value

def printf (args : List Value) : Except Failure Value :=
  match argument args 0 with
  | .null => .ok .null
  | value => do
    let parts ← (chunks (← value.shown)).mapM (expand args)
    return .text parts.flatten

end Retheme.Function
