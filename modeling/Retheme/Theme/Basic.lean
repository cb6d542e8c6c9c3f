import Retheme.Text.Quoted
import Retheme.Value

/-!
# Themes

A theme has a namespace, which its paths begin with, a name, which is the class
its rules are scoped by, data, and fonts with their sources.
-/

namespace Retheme

structure Theme where
  ns : Text
  name : Text
  data : Entries Value
  fonts : Option (Entries Value)

namespace Theme

/-- A theme; an empty list of fonts counts as none. -/
def make (ns name : Text) (data : Entries Value) (fonts : Option (Entries Value)) : Theme :=
  { ns, name, data, fonts := fonts.filter (!·.isEmpty) }

def value (theme : Theme) (key : Text) : Value := (Entries.get? key theme.data).getD .null

def setValue (theme : Theme) (key : Text) (value : Value) : Theme :=
  { theme with data := Entries.set key value theme.data }

/-- The class of a theme is added to the classes of a node that does not have it yet. -/
def applyTo (theme : Theme) (classes : List Text) : List Text :=
  if classes.contains theme.name then classes else classes ++ [theme.name]

def removeFrom (theme : Theme) (classes : List Text) : List Text :=
  classes.filter (· ≠ theme.name)

def shown (theme : Theme) : Text :=
  "Theme(namespace=" ++ theme.ns.quoted ++ ", name=" ++ theme.name.quoted ++ ")"

def walk (value : Value) : List Text → Option Value
  | [] => some value
  | name :: names =>
    match value with
    | .map fields => (Entries.get? name fields).bind fun inner => walk inner names
    | _ => none

/-- The value at a path, whose first name has to be the namespace. -/
def resolve? (theme : Theme) : List Text → Option Value
  | [] => none
  | first :: names => if first = theme.ns then walk (.map theme.data) names else none

end Theme

end Retheme
