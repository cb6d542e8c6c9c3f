import Retheme.Text.Digit
import Retheme.Text.Hex

/-!
# Numerical hosts

A host can be given by its number: four decimal fields between points, or eight
hexadecimal fields between colons, where one run of zeros may be left out, and
the last two fields may be written as four decimal ones.
-/

namespace Retheme.Web.Literal

/-- Whether a text is one of four decimal fields: up to 255, without a zero in front. -/
def isOctet (field : Text) : Bool :=
  !field.isEmpty && field.length ≤ 3 && field.all Text.isAsciiDigit &&
    (field = ['0'] || field.head? ≠ some '0') && field.digitsValue ≤ 255

def isDotted (host : Text) : Bool :=
  let fields := host.split '.'
  fields.length = 4 && fields.all isOctet

/-- Whether a text looks like four decimal fields: four runs of digits with single characters
between them, some of which may be digits as well. -/
def looksDotted (host : Text) : Bool :=
  let runs := Text.split '.' (host.map fun c => if Text.isAsciiDigit c then c else '.')
  runs.all (!·.isEmpty) && runs.length ≤ 4 &&
    4 ≤ runs.length + (runs.map fun run => (run.length - 1) / 2).foldr Nat.add 0

def isGroup (field : Text) : Bool :=
  !field.isEmpty && field.length ≤ 4 && field.all Text.isHexDigit

/-- How many hexadecimal fields stand between the colons of a text. The last may stand for two when
it may be dotted. -/
def groups? (dotted : Bool) (text : Text) : Option Nat :=
  if text.isEmpty then some 0
  else
    let fields := text.split ':'
    let last := fields.getLast?.getD []
    if fields.all isGroup then some fields.length
    else if dotted && fields.dropLast.all isGroup && isDotted last then some (fields.length + 1)
    else none

def isColoned (text : Text) : Bool :=
  match Text.cut? [':', ':'] text with
  | none => groups? true text = some 8
  | some (before, after) =>
    match groups? false before, groups? true after with
    | some first, some last => first + last ≤ 7
    | _, _ => false

/-- Whether a text is eight hexadecimal fields, with the name of a zone behind a percent sign if
there is one. -/
def isZoned (text : Text) : Bool :=
  match Text.cut? ['%'] text with
  | none => isColoned text
  | some (number, zone) => isColoned number && !zone.isEmpty && !zone.contains '%'

end Retheme.Web.Literal
