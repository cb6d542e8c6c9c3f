import Retheme.Sheet.Marker
import Retheme.Sheet.Rule

/-!
# Declarations behind markers

A marker stands in front of a declaration. Its property is the text up to the
first colon behind the marker. The declaration is important when its value,
looked for within a short stretch and on one line, carries the flag. The
declared value ends at the first semicolon, comment or closing brace.
-/

namespace Retheme.Sheet

def importantFlag : Text := "!important"

def importantReach : Nat := 100

/-- The property a marker stands in front of, the canonical name of the rule around it, and
whether the declaration is important. -/
structure Context where
  prop : Text
  rule : Text
  important : Bool
  deriving DecidableEq, Repr

namespace Context

def empty : Context := ⟨[], [], false⟩

def isValid (context : Context) : Bool := !context.prop.isEmpty && !context.rule.isEmpty

end Context

/-- A value behind a colon: at least one character, up to a semicolon or a closing brace, without
a line feed. The first character may be anything but a line feed. -/
def lineValue? : Text → Option Text
  | [] => none
  | c :: rest =>
    let ends := fun d => d == ';' || d == '}'
    if c = '\n' then none
    else
      let value := rest.takeWhile fun d => !ends d && d != '\n'
      match rest.drop value.length with
      | d :: _ => if ends d then some (c :: value) else none
      | [] => none

def firstLineValue? : Text → Option Text
  | [] => none
  | c :: rest =>
    if c = ':' then (lineValue? rest).or (firstLineValue? rest) else firstLineValue? rest

/-- The text behind the first closing delimiter at or after an offset, and its own offset. -/
def afterMarker? (source : Text) (position : Nat) : Option (Nat × Text) :=
  (Text.cut? markerClose (source.drop position)).map fun (before, after) =>
    (position + before.length + markerClose.length, after)

def contextAt (source : Text) (position : Nat) : Context :=
  match afterMarker? source position with
  | none => .empty
  | some (offset, rest) =>
    match Text.cut? [':'] rest with
    | none => .empty
    | some (before, after) =>
      let prop := Text.removeBlanks before
      if prop.isEmpty || prop.any (fun c => c = '{' || c = '}' || c = ';') then .empty
      else
        { prop
          rule := ruleNameAt source offset
          important := match firstLineValue? ((':' :: after).take importantReach) with
            | some value => importantFlag.occursIn value
            | none => false }

/-- The text up to the first semicolon, closing brace or comment. -/
def valueText : Text → Text
  | [] => []
  | c :: rest =>
    if c = ';' || c = '}' || (c = '/' && rest.head? = some '*') then [] else c :: valueText rest

def dropImportant (value : Text) : Text :=
  if importantFlag.isSuffixOf value then
    Text.stripEnd (value.take (value.length - importantFlag.length))
  else value

/-- The value of the declaration behind the marker at an offset, as it stands in the sheet. Without
a closing delimiter the declaration is looked for at the offset itself. -/
def declaredValue? (source : Text) (position : Nat) : Option Text :=
  let rest := match afterMarker? source position with
    | some (_, rest) => rest
    | none => source.drop position
  let declaration := rest.takeWhile (· != '}')
  (Text.cut? [':'] declaration).map fun (_, after) => dropImportant (Text.strip (valueText after))

end Retheme.Sheet
