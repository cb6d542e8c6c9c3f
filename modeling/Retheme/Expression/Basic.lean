import Retheme.Expression.Arguments
import Retheme.Text.Word
import Retheme.Text.Digit

/-!
# Expressions

A marker asks for the theme value at a dotted path or calls a function. An
argument of a call is a call, a variable between percent signs, a path of at
least two names, or plain text, from which surrounding quotes are taken off.
Every node but plain text keeps the text it was read from.
-/

namespace Retheme

inductive Node where
  | literal (text : Text)
  | variable (name text : Text)
  | path (segments : List Text) (text : Text)
  | call (name : Text) (args : List Node) (text : Text)

/-- What a marker asks for: the theme value at a path, or the result of a call. -/
inductive Expression where
  | path (segments : List Text) (text : Text)
  | call (name : Text) (args : List Node) (text : Text)

namespace Expression

-- ---------------------------------------------------------------------------
-- Calls
-- ---------------------------------------------------------------------------

/-- The name of a call and the text between its parentheses. The parenthesis after the name has
to be closed by the last character. -/
def callParts? : Text → Option (Text × Text)
  | [] => none
  | c :: rest =>
    if Text.isAsciiLetter c || c = '_' then
      match (rest.dropWhile Text.isNameChar).dropWhile Text.isBlank with
      | '(' :: body =>
        match Nesting.top.inside? .round body with
        | some (inner, []) => some (c :: rest.takeWhile Text.isNameChar, inner)
        | _ => none
      | _ => none
    else none

theorem length_lt_of_callParts? {text name inner : Text}
    (h : callParts? text = some (name, inner)) : inner.length < text.length := by
  cases text with
  | nil => simp [callParts?] at h
  | cons c rest =>
    simp only [callParts?] at h
    split at h
    · split at h
      · next body hb =>
        split at h
        · next i hi =>
          cases h
          have h1 := Nesting.length_lt_of_inside? hi
          have h2 := (List.dropWhile_suffix Text.isNameChar (l := rest)).length_le
          have h3 := (List.dropWhile_suffix Text.isBlank
            (l := rest.dropWhile Text.isNameChar)).length_le
          simp only [hb, List.length_cons] at h3 ⊢
          omega
        · cases h
      · cases h
    · cases h

-- ---------------------------------------------------------------------------
-- Arguments that are no calls
-- ---------------------------------------------------------------------------

/-- The name of a variable between percent signs. A line feed may follow. -/
def variableName? : Text → Option Text
  | '%' :: rest =>
    let name := rest.takeWhile Text.isNameChar
    match rest.dropWhile Text.isNameChar with
    | ['%'] => if name.isEmpty then none else some name
    | ['%', '\n'] => if name.isEmpty then none else some name
    | _ => none
  | _ => none

def dropFinalLineFeed (text : Text) : Text :=
  if ['\n'].isSuffixOf text then text.dropLast else text

def isIdentifier : Text → Bool
  | [] => false
  | c :: rest => (Text.isAsciiLetter c || c = '_') && rest.all Text.isNameChar

/-- Whether a text is a path of at least two names, the first of which starts with a letter or a
low line. A line feed may follow. -/
def isPath (text : Text) : Bool :=
  match (dropFinalLineFeed text).split '.' with
  | first :: second :: more =>
    isIdentifier first && (second :: more).all fun name => !name.isEmpty && name.all Text.isNameChar
  | _ => false

def unquote (text : Text) : Text :=
  match text with
  | quote :: rest =>
    if Nesting.isQuote quote && !rest.isEmpty && rest.getLast? = some quote then rest.dropLast
    else text
  | [] => []

def leaf (text : Text) : Node :=
  match variableName? text with
  | some name => .variable name text
  | none => if isPath text then .path (text.split '.') text else .literal (unquote text)

-- ---------------------------------------------------------------------------
-- Parsing
-- ---------------------------------------------------------------------------

def parseArgument (text : Text) : Except Malformed Node :=
  match hc : callParts? text with
  | none => .ok (leaf text)
  | some (name, inner) =>
    match hs : splitArguments inner with
    | .error e => .error e
    | .ok pieces => do
      let args ← pieces.attach.mapM fun ⟨piece, hp⟩ =>
        have : piece.length < text.length :=
          Nat.lt_of_le_of_lt (length_le_of_mem_splitArguments hs hp) (length_lt_of_callParts? hc)
        parseArgument piece
      return .call name args text
termination_by text.length

def parseArguments (inner : Text) : Except Malformed (List Node) := do
  (← splitArguments inner).mapM parseArgument

/-- An expression from the text of a marker. What is no call is a path. -/
def parse (text : Text) : Except Malformed Expression :=
  let body := text.strip
  match callParts? body with
  | none => .ok (.path (body.split '.') body)
  | some (name, inner) => (parseArguments inner).map fun args => .call name args body

end Expression

def Expression.toNode : Expression → Node
  | .path segments text => .path segments text
  | .call name args text => .call name args text

end Retheme
