import Retheme.Text.Basic

/-!
# Base 64

Bytes in groups of six bits, padded to groups of four characters.
-/

namespace Retheme.Text

/-- The character of six bits; defined for `n < 64`. -/
def base64Char (n : Nat) : Char :=
  if n < 26 then Char.ofNat (65 + n)
  else if n < 52 then Char.ofNat (71 + n)
  else if n < 62 then Char.ofNat (n - 4)
  else if n = 62 then '+'
  else '/'

def base64 : List UInt8 → Text
  | [] => []
  | [a] =>
    let n := a.toNat * 0x10000
    [base64Char (n / 0x40000), base64Char (n / 0x1000 % 64), '=', '=']
  | [a, b] =>
    let n := a.toNat * 0x10000 + b.toNat * 0x100
    [base64Char (n / 0x40000), base64Char (n / 0x1000 % 64), base64Char (n / 0x40 % 64), '=']
  | a :: b :: c :: rest =>
    let n := a.toNat * 0x10000 + b.toNat * 0x100 + c.toNat
    base64Char (n / 0x40000) :: base64Char (n / 0x1000 % 64) :: base64Char (n / 0x40 % 64) ::
      base64Char (n % 64) :: base64 rest

end Retheme.Text
