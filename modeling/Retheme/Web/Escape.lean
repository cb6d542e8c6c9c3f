import Retheme.Text.Hex
import Retheme.Text.Utf8

/-!
# Escapes in addresses

Every part of an address has characters that stand for themselves. The others
are written as their bytes, each as a percent sign and two hexadecimal digits.
A percent sign stands for itself everywhere, so that what is escaped already
stays as it is.
-/

namespace Retheme.Web.Escape

def isPrintable (c : Char) : Bool := ' ' ≤ c && c ≤ '~'

def inFragment (c : Char) : Bool := isPrintable c && !" \"<>`".toList.contains c

def inQuery (c : Char) : Bool := isPrintable c && !" \"#<>".toList.contains c

def inPath (c : Char) : Bool := inQuery c && !"?`\x7b\x7d".toList.contains c

def inUser (c : Char) : Bool :=
  inPath c && !"/;=@[\\]^|".toList.contains c

def inHost (c : Char) : Bool := isPrintable c && !" #/:<>?@[]^".toList.contains c

def write (stands : Char → Bool) (text : Text) : Text :=
  text.flatMap fun c =>
    if stands c then [c]
    else (Text.utf8Char c).flatMap fun byte =>
      '%' :: (Text.hexDigits 2 byte.toNat).map Char.toUpper

def bytes : Text → List UInt8
  | '%' :: a :: b :: rest =>
    match Text.hexValue? a, Text.hexValue? b with
    | some high, some low => (16 * high + low).toUInt8 :: bytes rest
    | _, _ => 0x25 :: bytes (a :: b :: rest)
  | c :: rest => Text.utf8Char c ++ bytes rest
  | [] => []
termination_by text => text.length

/-- A text whose escapes are read; bytes that are no text become replacement characters. -/
def read (text : Text) : Text := Text.ofUtf8Lossy (bytes text)

end Retheme.Web.Escape
