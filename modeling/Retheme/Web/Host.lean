import Retheme.Web.Escape
import Retheme.Web.Label.Basic
import Retheme.Web.Literal
import Retheme.Web.LowerCase

/-!
# Hosts

A host is a number or a name. A name is kept as it is sent: in small letters,
every label with the characters of ASCII alone. A number in colons is kept
without the brackets that it has in an address.
-/

namespace Retheme.Web.Host

def isPoint (c : Char) : Bool := c = '.' || c = '\u3002' || c = '\uff0e' || c = '\uff61'

def labels (name : Text) : List Text × Bool :=
  let pieces := Text.split '.' (name.map fun c => if isPoint c then '.' else c)
  if pieces.getLast? = some [] then (pieces.dropLast, true) else (pieces, false)

def lengthLimit : Nat := 253

def mapLabels (change : Text → Except LabelFault Text) (name : Text) :
    Except LabelFault Text := do
  let (labels, pointed) := labels name
  if name.isEmpty || lengthLimit + 1 < name.length then throw .malformed
  let labels ← labels.mapM change
  return Text.join ['.'] (if pointed then labels ++ [[]] else labels)

def sent (name : Text) : Except LabelFault Text := do
  let name ← mapLabels Label.sent name
  if lengthLimit + (if name.getLast? = some '.' then 1 else 0) < name.length then throw .malformed
  return name

/-- A name as it is shown: one that begins with a coded label is decoded. -/
def shown (name : Text) : Except LabelFault Text :=
  if Label.codedPrefix.isPrefixOf name then mapLabels Label.shown name else .ok name

def canonical? (host : Text) : Option Text :=
  if host.isEmpty then some []
  else if Literal.looksDotted host then if Literal.isDotted host then some host else none
  else if host.head? = some '[' && host.getLast? = some ']' then
    let number := (host.drop 1).dropLast
    if Literal.isZoned number then some number else none
  else if host.all Punycode.isBasic then
    some (Escape.write Escape.inHost (host.map Char.toLower))
  else (sent (smallLetters host)).toOption

def text (host : Text) : Text := if host.contains ':' then '[' :: host ++ [']'] else host

end Retheme.Web.Host
