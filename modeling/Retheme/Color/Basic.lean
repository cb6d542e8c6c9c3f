import Retheme.Number
import Retheme.Text.Hex

/-!
# Colours

A colour has three channels from 0 to 255 and an alpha from 0 to 1. It is
written as a hexadecimal text with an alpha byte or in functional notation.
-/

namespace Retheme

structure Color where
  red : Nat
  green : Nat
  blue : Nat
  alpha : Number

/-- What reads the text of a colour: the colour, or none, or a failure. -/
abbrev ColorReader := Text → Except Failure (Option Color)

namespace Color

def ofNumber (rgb : Nat) (alpha : Number) : Color :=
  ⟨rgb / 0x10000 % 0x100, rgb / 0x100 % 0x100, rgb % 0x100, alpha⟩

def opaqueAlpha : Number := .float 1.0

def clampUnit (value : Number) : Number := value.clamp (.float 0.0) (.float 1.0)

def alphaByte (alpha : Number) : Except Failure Nat := do
  let byte ← Number.roundHalfUp (.float ((← (clampUnit alpha).toFloat) * 255.0))
  return byte.toNat

/-- Eight hexadecimal digits behind a number sign: the channels and the byte of a given alpha. -/
def hexText (color : Color) (alpha : Number) : Except Failure Text := do
  return '#' :: Text.hexDigits 2 color.red ++ Text.hexDigits 2 color.green ++
    Text.hexDigits 2 color.blue ++ Text.hexDigits 2 (← alphaByte alpha)

def rgbaText (red green blue : Int) (alpha : Number) : Except Failure Text := do
  return "rgba(" ++ Integer.text red ++ ", " ++ Integer.text green ++ ", " ++ Integer.text blue ++
    ", " ++ (← alpha.text) ++ ")"

end Color

end Retheme
