import Retheme.Number.Power
import Retheme.Text.Digit
import Retheme.Failure

/-!
# Integers in decimal digits

An integer is written in decimal digits and read from the digits of any
script. Numerals longer than a limit are neither written nor read.
-/

namespace Retheme.Integer

def digitLimit : Nat := 4300

/-- The digit that counts `n`; defined for `n < 10`. -/
def digit (n : Nat) : Char := Char.ofNat (48 + n)

def digits (n : Nat) : Text := if n < 10 then [digit n] else digits (n / 10) ++ [digit (n % 10)]

def text (n : Int) : Text := if n < 0 then '-' :: digits n.natAbs else digits n.natAbs

def isLong (n : Int) : Bool := tenTo digitLimit ≤ n.natAbs

def read (digits : Text) : Except Failure Nat :=
  if digitLimit < digits.length then .error .tooManyDigits else .ok digits.digitsValue

end Retheme.Integer
