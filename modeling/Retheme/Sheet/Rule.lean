import Retheme.Sheet.Comment
import Retheme.Text.Nesting

/-!
# Rule names

The name of a rule is the text in front of its opening brace: the selectors,
or the prelude of the at-rule around it together with the selectors. Names are
canonical: comments are dropped, runs of spaces are one space, and the pieces
between top-level commas are trimmed.
-/

namespace Retheme.Sheet

def squeezeSpaces : Text → Text
  | ' ' :: ' ' :: rest => squeezeSpaces (' ' :: rest)
  | c :: rest => c :: squeezeSpaces rest
  | [] => []

def isSelectorBlank (c : Char) : Bool := c = ' ' || c = '\t' || c = '\n' || c = '\r'

def canonicalName (raw : Text) : Text :=
  Text.join [',']
    (((squeezeSpaces (eraseComments raw)).splitTop ',').map (Text.trim isSelectorBlank))

/-- The text in front of the last opening brace, if there is one. -/
def beforeBrace? (text : Text) : Option Text :=
  if text.contains '{' then some (Text.dropEndWhile (· != '{') text).dropLast else none

/-- The text from the last at sign on; nothing without one. -/
def fromAt (text : Text) : Text :=
  if text.contains '@' then '@' :: Text.takeEndWhile (· != '@') text else []

def afterRule (text : Text) : Text := Text.takeEndWhile (fun c => c != '}' && c != ';') text

/-- Whether an at-rule is open at the end of a text without comments: the last at sign has no
closing brace behind it, and an opening one. -/
def insideAtRule (text : Text) : Bool :=
  let tail := Text.takeEndWhile (fun c => c != '}' && c != '@') text
  let head := Text.dropEndWhile (fun c => c != '}' && c != '@') text
  head.getLast? = some '@' && tail.contains '{'

/-- The offset that a position stands for. A negative position counts from the end of the sheet, and
one before the start stands for the start. -/
def offset (source : Text) (position : Int) : Nat :=
  if position < 0 then (source.length + position).toNat else position.toNat

/-- The canonical name of the rule whose block opens with the last brace up to a position, the one
there included, with the prelude of the at-rule around it when it is nested in one. Nothing when no
brace opens. -/
def ruleNameUpTo (source : Text) (position : Int) (nested : Bool) : Text :=
  match beforeBrace? ((blankComments source).take (offset source (position + 1))) with
  | none => []
  | some text => canonicalName (if nested then fromAt text else afterRule text)

/-- The canonical name of the rule around an offset; nothing when no brace opens before it. -/
def ruleNameAt (source : Text) (position : Nat) : Text :=
  match beforeBrace? ((blankComments source).take position) with
  | none => []
  | some text => canonicalName (if insideAtRule text then fromAt text else afterRule text)

end Retheme.Sheet
