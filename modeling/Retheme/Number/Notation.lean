import Retheme.Number.Shortest
import Retheme.Number.Integer

/-!
# Doubles in decimal notation

A double is written by its shortest decimal. The notation is positional, with
at least one digit after the point, when the first digit counts at least
`10 ^ -4` and less than `10 ^ 16`; otherwise it has an exponent of at least two
digits with its sign.
-/

namespace Retheme.Decimal

def padded (width n : Nat) : Text :=
  let digits := Integer.digits n
  List.replicate (width - digits.length) '0' ++ digits

/-- Positional notation: the point stands `point` places after the first digit. -/
def positional (digits : Text) (point : Int) : Text :=
  if point ≤ 0 then "0." ++ List.replicate (-point).toNat '0' ++ digits
  else
    let places := point.toNat
    if digits.length ≤ places then digits ++ List.replicate (places - digits.length) '0' ++ ".0"
    else digits.take places ++ ['.'] ++ digits.drop places

/-- Notation with an exponent: one digit before the point, and no point without a digit after it. -/
def exponential (digits : Text) (power : Int) : Text :=
  let mantissa := match digits with
    | first :: rest => if rest.isEmpty then [first] else first :: '.' :: rest
    | [] => []
  let sign := if power < 0 then '-' else '+'
  mantissa ++ ['e', sign] ++ padded 2 power.natAbs

def Scaled.text (decimal : Scaled) : Text :=
  let digits := Integer.digits decimal.digits
  let point := digits.length + decimal.exponent
  if -4 < point ∧ point ≤ 16 then positional digits point else exponential digits (point - 1)

def floatText (x : Float) : Text :=
  match Binary64.shape x with
  | .nan => "nan"
  | .infinite negative => if negative then "-inf" else "inf"
  | .finite negative mantissa exponent =>
    let magnitude : Text := if mantissa = 0 then "0.0" else (shortest mantissa exponent).text
    if negative then '-' :: magnitude else magnitude

end Retheme.Decimal
