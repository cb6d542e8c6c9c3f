import Retheme.Number.Integer
import Retheme.Number.Shortest
import Retheme.Text.Digit
import Retheme.Text.Blank

/-!
# Reading decimal numbers

A numeral has an optional sign, digits of any script with an optional point,
and an optional exponent. It is read from the front of a text, as lengths such
as `16px` begin, or as a whole text, where blanks may stand around it, single
low lines between digits, and the names of infinity and of no number are
accepted. Whole texts are read as integers, too.
-/

namespace Retheme.Decimal

/-- The double nearest to plus or minus a decimal. Exponents far outside the range of the doubles
are decided by the place of the first digit. -/
def toFloat (negative : Bool) (decimal : Scaled) : Float :=
  let place : Int := (decimal.digits.log2 : Int) * 30103 / 100000 + decimal.exponent
  if decimal.digits = 0 || place < -400 then Binary64.nearest negative 0 1
  else if 400 < place then
    (if negative then Binary64.negativeInfinity else Binary64.positiveInfinity)
  else Binary64.nearest negative (decimal.digits * tenTo decimal.exponent.toNat)
    (tenTo (-decimal.exponent).toNat)

/-- The parts of a numeral: sign, digits before and after the point, and the exponent with its
sign. -/
structure Numeral where
  negative : Bool
  whole : Text
  fraction : Text
  exponent : Option (Bool × Text)

def Numeral.value (numeral : Numeral) : Float :=
  let shift : Int := match numeral.exponent with
    | none => 0
    | some (negative, digits) =>
      if negative then -(digits.digitsValue : Int) else digits.digitsValue
  toFloat numeral.negative
    ⟨(numeral.whole ++ numeral.fraction).digitsValue, shift - numeral.fraction.length⟩

def readSign : Text → Bool × Text
  | '-' :: rest => (true, rest)
  | '+' :: rest => (false, rest)
  | text => (false, text)

def readExponent (digit : Char → Bool) (text : Text) : Option (Bool × Text) × Text :=
  match text with
  | c :: rest =>
    if c = 'e' || c = 'E' then
      let (negative, rest) := readSign rest
      let digits := rest.takeWhile digit
      if digits.isEmpty then (none, text) else (some (negative, digits), rest.dropWhile digit)
    else (none, text)
  | [] => (none, text)

def readNumeral? (text : Text) : Option (Numeral × Text) :=
  let (negative, unsigned) := readSign text
  let whole := unsigned.takeWhile Text.isDigit
  let (fraction, rest) := match unsigned.dropWhile Text.isDigit with
    | '.' :: rest => (rest.takeWhile Text.isDigit, rest.dropWhile Text.isDigit)
    | rest => ([], rest)
  if whole.isEmpty && fraction.isEmpty then none
  else
    let (exponent, rest) := readExponent Text.isDigit rest
    some (⟨negative, whole, fraction, exponent⟩, rest)

def leading? (text : Text) : Option (Float × Text) :=
  (readNumeral? (text.dropWhile Text.isBlank)).map fun (numeral, rest) => (numeral.value, rest)

/-- A text without the low lines that stand between two digits; none when a low line stands
elsewhere. -/
def dropLowLines? (afterDigit : Bool) : Text → Option Text
  | [] => some []
  | '_' :: c :: rest =>
    if afterDigit && Text.isDigit c then (dropLowLines? true rest).map (c :: ·) else none
  | c :: rest => if c = '_' then none else (dropLowLines? (Text.isDigit c) rest).map (c :: ·)

/-- A text without the blanks around a numeral. The information separators are not among them. -/
def stripNumeral (text : Text) : Text :=
  Text.trim (fun c => Text.isBlank c && !Text.isInformationSeparator c) text

def readInteger? (text : Text) : Option Int :=
  let (negative, magnitude) := readSign (stripNumeral text)
  match dropLowLines? false magnitude with
  | none => none
  | some digits =>
    if digits.isEmpty || !digits.all Text.isDigit then none
    else match Integer.read digits with
      | .ok n => some (if negative then -(n : Int) else n)
      | .error _ => none

def readFloat? (text : Text) : Option Float :=
  let body := stripNumeral text
  let (negative, magnitude) := readSign body
  let name := magnitude.map Char.toLower
  if name = "inf".toList || name = "infinity".toList then
    some (if negative then Binary64.negativeInfinity else Binary64.positiveInfinity)
  else if name = "nan".toList then some Binary64.nan
  else match dropLowLines? false body with
    | none => none
    | some plain =>
      match readNumeral? plain with
      | some (numeral, []) => some numeral.value
      | _ => none

end Retheme.Decimal
