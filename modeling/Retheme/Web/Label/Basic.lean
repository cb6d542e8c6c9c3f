import Retheme.Web.Label.Permitted
import Retheme.Web.Label.Composition
import Retheme.Web.Label.Context
import Retheme.Web.Label.Direction
import Retheme.Web.Label.Punycode

/-!
# Labels

A label is a piece of a host name between two points. It is shown with the
characters of any script and sent with those of ASCII alone. A label that is
shown has to be composed, to begin with no mark, to have permitted characters
only, and to keep its order on the page.
-/

namespace Retheme.Web

inductive LabelFault where
  /-- It is empty or too long, is not composed, begins with a mark, or has hyphens or joiners where
  they may not be. -/
  | malformed
  /-- It has a character that no label has. -/
  | character
  /-- It has a character beside others that do not go with it. -/
  | context
  /-- Its characters are written in different directions. -/
  | direction
  deriving DecidableEq, Repr

namespace Label

/-- Whether hyphens stand where they may: neither first nor last, nor both third and fourth. -/
def hyphensFit (label : Text) : Bool :=
  (label.drop 2).take 2 ≠ ['-', '-'] && label.head? ≠ some '-' && label.getLast? ≠ some '-'

/-- The characters of a label are permitted where they stand, behind those in front of them. -/
def checkCharacters (before : Text) : Text → Except LabelFault Unit
  | [] => .ok ()
  | c :: rest =>
    if isPermitted c then checkCharacters (before ++ [c]) rest
    else if isIn contextRanges c then
      if fitsContext before c rest then checkCharacters (before ++ [c]) rest
      else .error (if isJoiner c then .malformed else .context)
    else .error .character

def lengthLimit : Nat := 63

def check (label : Text) : Except LabelFault Unit := do
  if label.isEmpty || !isComposed label || !hyphensFit label || label.head?.any isMark then
    throw .malformed
  checkCharacters [] label
  if !keepsOrder label then throw .direction

/-- What labels written with the characters of ASCII begin with when they are shown otherwise. -/
def codedPrefix : Text := ['x', 'n', '-', '-']

def shown (label : Text) : Except LabelFault Text :=
  let label := label.map Char.toLower
  if codedPrefix.isPrefixOf label then
    let coded := label.drop codedPrefix.length
    if coded.isEmpty || coded.getLast? = some '-' then .error .malformed
    else match Punycode.decode? coded with
      | none => .error .malformed
      | some label => (check label).map fun _ => label
  else (check label).map fun _ => label

/-- A label as it is sent. One of ASCII alone has to be one that can be shown. -/
def sent (label : Text) : Except LabelFault Text := do
  let label ←
    if label.all Punycode.isBasic then (shown label).map fun _ => label
    else (check label).map fun _ => codedPrefix ++ Punycode.encode label
  if lengthLimit < label.length then throw .malformed
  return label

end Label

end Retheme.Web
