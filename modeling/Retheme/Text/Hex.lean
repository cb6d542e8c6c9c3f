import Retheme.Text.Basic

/-!
# Hexadecimal digits
-/

namespace Retheme.Text

/-- The hexadecimal digit that counts `n`, in lower case; defined for `n < 16`. -/
def hexDigit (n : Nat) : Char := if n < 10 then Char.ofNat (48 + n) else Char.ofNat (87 + n)

def hexDigits : Nat → Nat → Text
  | 0, n => if n < 16 then (if n = 0 then [] else [hexDigit n])
    else hexDigits 0 (n / 16) ++ [hexDigit (n % 16)]
  | width + 1, n => hexDigits width (n / 16) ++ [hexDigit (n % 16)]
termination_by width n => (width, n)

def hexValue? (c : Char) : Option Nat :=
  if '0' ≤ c && c ≤ '9' then some (c.toNat - 48)
  else if 'a' ≤ c && c ≤ 'f' then some (c.toNat - 87)
  else if 'A' ≤ c && c ≤ 'F' then some (c.toNat - 55)
  else none

def isHexDigit (c : Char) : Bool := (hexValue? c).isSome

def hexNumber (digits : Text) : Nat :=
  digits.foldl (fun total c => 16 * total + (hexValue? c).getD 0) 0

end Retheme.Text
