import Retheme.Value
import Retheme.Text.Hex

/-!
# Writing JSON

Values are written on one line, or with every item on a line of its own behind
an indent. Strings hold only printable characters of the basic Latin block: controls and
all other characters are escaped, beyond the basic plane as two surrogates.
-/

namespace Retheme.Json

def unitEscape (unit : Nat) : Text := '\\' :: 'u' :: Text.hexDigits 4 unit

def stringChar (c : Char) : Text :=
  if c = '"' || c = '\\' then ['\\', c]
  else if c = '\n' then ['\\', 'n']
  else if c = '\r' then ['\\', 'r']
  else if c = '\t' then ['\\', 't']
  else if c = '\x08' then ['\\', 'b']
  else if c = '\x0c' then ['\\', 'f']
  else if 0x20 ≤ c.toNat && c.toNat < 0x7f then [c]
  else if c.toNat < 0x10000 then unitEscape c.toNat
  else
    let offset := c.toNat - 0x10000
    unitEscape (0xd800 + offset / 0x400) ++ unitEscape (0xdc00 + offset % 0x400)

def string (s : Text) : Text := '"' :: s.flatMap stringChar ++ ['"']

/-- A double; infinities and no number have names. -/
def double (x : Float) : Text :=
  match Binary64.shape x with
  | .nan => "NaN"
  | .infinite negative => if negative then "-Infinity" else "Infinity"
  | .finite .. => Decimal.floatText x

inductive Layout where
  /-- All on one line. -/
  | line
  /-- Each on a line of its own, indented by so many spaces, and inner ones by `step` more. -/
  | lines (step indent : Nat)

namespace Layout

def inner : Layout → Layout
  | line => line
  | lines step indent => lines step (indent + step)

def lead : Layout → Text
  | line => []
  | lines _ indent => '\n' :: List.replicate indent ' '

def gap : Layout → Text
  | line => ", "
  | layout => ',' :: layout.lead

end Layout

/-- Items between brackets; nothing stands between the brackets of an empty list. -/
def bracketed (layout : Layout) (opening closing : Char) (items : List Text) : Text :=
  if items.isEmpty then [opening, closing]
  else opening :: layout.inner.lead ++ Text.join layout.inner.gap items ++ layout.lead ++ [closing]

mutual
def write (layout : Layout) : Value → Text
  | .null => "null"
  | .bool b => if b then "true".toList else "false".toList
  | .number (.int n) => Integer.text n
  | .number (.float x) => double x
  | .text s => string s
  | .list items => bracketed layout '[' ']' (writeItems layout.inner items)
  | .map fields => bracketed layout '{' '}' (writeFields layout.inner fields)

def writeItems (layout : Layout) : List Value → List Text
  | [] => []
  | item :: items => write layout item :: writeItems layout items

def writeFields (layout : Layout) : List (Text × Value) → List Text
  | [] => []
  | (key, item) :: fields => (string key ++ ": " ++ write layout item) :: writeFields layout fields
end

end Retheme.Json
