import Retheme.Value
import Retheme.Text.Hex

/-!
# Reading JSON

The text of one JSON value, with blanks around it. Numbers with a point or an
exponent are doubles, all others integers of any size; the three names for
infinities and for no number are accepted. A key written twice keeps its first
place and its last value. Control characters inside strings are refused.

An escape may name half of a surrogate pair without the other half. No text has
a character for it, so the reader is told what stands for it, and a text is exact
when that makes no difference.
-/

namespace Retheme.Json

inductive Fault where
  /-- The text is not one JSON value. -/
  | malformed
  /-- An integer has more digits than a numeral may have. -/
  | tooManyDigits
  deriving DecidableEq, Repr

def isBlank (c : Char) : Bool := c = ' ' || c = '\t' || c = '\n' || c = '\r'

-- ---------------------------------------------------------------------------
-- Strings
-- ---------------------------------------------------------------------------

/-- Where a reader stands inside a string: between characters, after a backslash, or with
hexadecimal digits still to come. -/
inductive StringState where
  | plain
  | escape
  | unicode (left value : Nat)

def escaped? : Char → Option Char
  | '"' => some '"'
  | '\\' => some '\\'
  | '/' => some '/'
  | 'b' => some '\x08'
  | 'f' => some '\x0c'
  | 'n' => some '\n'
  | 'r' => some '\r'
  | 't' => some '\t'
  | _ => none

/-- The code units of a string after its opening quote, and the text after its closing quote. -/
def readUnits (units : List Nat) : StringState → Text → Except Fault (List Nat × Text)
  | _, [] => .error .malformed
  | .plain, c :: rest =>
    if c = '"' then .ok (units.reverse, rest)
    else if c = '\\' then readUnits units .escape rest
    else if c.toNat < 0x20 then .error .malformed
    else readUnits (c.toNat :: units) .plain rest
  | .escape, c :: rest =>
    if c = 'u' then readUnits units (.unicode 4 0) rest
    else match escaped? c with
      | some d => readUnits (d.toNat :: units) .plain rest
      | none => .error .malformed
  | .unicode left value, c :: rest =>
    match Text.hexValue? c with
    | none => .error .malformed
    | some digit =>
      if left ≤ 1 then readUnits ((16 * value + digit) :: units) .plain rest
      else readUnits units (.unicode (left - 1) (16 * value + digit)) rest

section

variable (half : Nat → Char)

/-- The character of a code point; for half of a surrogate pair, the one that stands for it. -/
def charOf (code : Nat) : Char := if Nat.isValidChar code then Char.ofNat code else half code

/-- The text of code units: two surrogates that belong together are one character. -/
def textOfUnits : List Nat → Text
  | high :: low :: rest =>
    if 0xd800 ≤ high && high < 0xdc00 && 0xdc00 ≤ low && low < 0xe000 then
      charOf half (0x10000 + (high - 0xd800) * 0x400 + (low - 0xdc00)) :: textOfUnits rest
    else charOf half high :: textOfUnits (low :: rest)
  | [code] => [charOf half code]
  | [] => []

def readString (text : Text) : Except Fault (Text × Text) :=
  (readUnits [] .plain text).map fun (units, rest) => (textOfUnits half units, rest)

end

-- ---------------------------------------------------------------------------
-- Numbers and words
-- ---------------------------------------------------------------------------

/-- The whole part of a number in digits, without a leading zero, and the text after it. -/
def readWhole? : Text → Option (Text × Text)
  | '0' :: rest => some (['0'], rest)
  | text =>
    let digits := text.takeWhile Text.isAsciiDigit
    if digits.isEmpty then none else some (digits, text.dropWhile Text.isAsciiDigit)

/-- The digits after a point, if there is a point with a digit, and the text after them. -/
def readFraction : Text → Text × Text
  | '.' :: rest =>
    let digits := rest.takeWhile Text.isAsciiDigit
    if digits.isEmpty then ([], '.' :: rest) else (digits, rest.dropWhile Text.isAsciiDigit)
  | text => ([], text)

def readNumber (negative : Bool) (text : Text) : Except Fault (Value × Text) :=
  match readWhole? text with
  | none => .error .malformed
  | some (whole, rest) =>
    let (fraction, rest) := readFraction rest
    let (exponent, rest) := Decimal.readExponent Text.isAsciiDigit rest
    if fraction.isEmpty && exponent.isNone then
      if Integer.digitLimit < whole.length then .error .tooManyDigits
      else .ok (.int (if negative then -(whole.digitsValue : Int) else whole.digitsValue), rest)
    else .ok (.float (Decimal.Numeral.value ⟨negative, whole, fraction, exponent⟩), rest)

def readWord (text : Text) : Option (Value × Text) :=
  [("null", Value.null), ("true", .bool true), ("false", .bool false),
    ("NaN", .float Binary64.nan), ("Infinity", .float Binary64.positiveInfinity),
    ("-Infinity", .float Binary64.negativeInfinity)].findSome? fun (word, value) =>
      if word.toList.isPrefixOf text then some (value, text.drop word.toList.length) else none

-- ---------------------------------------------------------------------------
-- Values
-- ---------------------------------------------------------------------------

section

variable (half : Nat → Char)

mutual
/-- A value at the front of a text, and the text after it. The depth bounds the nesting and the
number of items together. -/
def readValue (depth : Nat) (text : Text) : Except Fault (Value × Text) :=
  match depth, text with
  | 0, _ => .error .malformed
  | _, '"' :: rest => (readString half rest).map fun (s, rest) => (.text s, rest)
  | depth + 1, '[' :: rest =>
    match rest.dropWhile isBlank with
    | ']' :: rest => .ok (.list [], rest)
    | rest => (readItems depth rest).map fun (items, rest) => (.list items, rest)
  | depth + 1, '{' :: rest =>
    match rest.dropWhile isBlank with
    | '}' :: rest => .ok (.map [], rest)
    | rest => (readFields depth rest).map fun (fields, rest) =>
        (.map (Entries.ofPairs fields), rest)
  | _, text =>
    match readWord text, text with
    | some found, _ => .ok found
    | none, '-' :: rest => readNumber true rest
    | none, rest => readNumber false rest

def readItems (depth : Nat) (text : Text) : Except Fault (List Value × Text) :=
  match depth with
  | 0 => .error .malformed
  | depth + 1 => do
    let (item, rest) ← readValue depth text
    match rest.dropWhile isBlank with
    | ']' :: rest => return ([item], rest)
    | ',' :: rest =>
      let (items, rest) ← readItems depth (rest.dropWhile isBlank)
      return (item :: items, rest)
    | _ => throw .malformed

def readFields (depth : Nat) (text : Text) : Except Fault (List (Text × Value) × Text) :=
  match depth with
  | 0 => .error .malformed
  | depth + 1 => do
    let .cons '"' rest := text | throw .malformed
    let (key, rest) ← readString half rest
    let .cons ':' rest := rest.dropWhile isBlank | throw .malformed
    let (item, rest) ← readValue depth (rest.dropWhile isBlank)
    match rest.dropWhile isBlank with
    | '}' :: rest => return ([(key, item)], rest)
    | ',' :: rest =>
      let (fields, rest) ← readFields depth (rest.dropWhile isBlank)
      return ((key, item) :: fields, rest)
    | _ => throw .malformed
end

def readWith (text : Text) : Except Fault Value := do
  let (value, rest) ← readValue half (2 * text.length + 2) (text.dropWhile isBlank)
  if (rest.dropWhile isBlank).isEmpty then return value else throw .malformed

end

/-- The value of a text, with the replacement character for half of a surrogate pair. -/
def read : Text → Except Fault Value := readWith fun _ => '\ufffd'

/-- Nothing in the value of a text rests on what stands for half of a surrogate pair. -/
def IsExact (text : Text) : Prop := ∀ half, readWith half text = read text

end Retheme.Json
