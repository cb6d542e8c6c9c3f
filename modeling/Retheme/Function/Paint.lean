import Retheme.Color.Basic
import Retheme.Step
import Retheme.Function.Length

/-!
# Functions on colours

A colour is given an opacity, moved towards another one, or inverted. A text
that is no colour is reported, and there is no result. Which texts are colours is
up to a reader that the functions are given.
-/

namespace Retheme.Function

variable (reader : ColorReader)

/-- The colour that a value is; blank texts and nothing are none, without a report. -/
def colorOf (value : Value) : Report (Option Color) :=
  match value with
  | .null => pure none
  | value => do
    let text := (← Step.ofExcept value.shown).strip
    if text.isEmpty then return none
    match ← Step.ofExcept (reader text) with
    | some color => return some color
    | none =>
      Report.event (.notAColor text)
      return none

/-- The first argument, a colour, with the second as its alpha. A colour in hexadecimal digits
stays in that notation. -/
def opacify (args : List Value) : Report Value :=
  match argument args 0 with
  | .null => pure .null
  | value => do
    let color ← colorOf reader value
    let amount ← Step.ofExcept (argument args 1).leadingNumber?
    let some color := color | return .null
    let some amount := amount | return .null
    let alpha := Color.clampUnit (.float amount)
    if ['#'].isPrefixOf (← Step.ofExcept value.shown).strip then
      return .text (← Step.ofExcept (color.hexText alpha))
    else return .text (← Step.ofExcept (Color.rgbaText color.red color.green color.blue alpha))

def tintAmount : Text := "0.5"

/-- An amount: a number, or a percentage. -/
def amountOf (value : Value) : Except Failure (Option Float) := do
  let text := (← value.shown).strip
  if ['%'].isSuffixOf text then return (Decimal.leading? text.dropLast).map fun (x, _) => x / 100.0
  return (Decimal.leading? text).map fun (x, _) => x

/-- A channel moved by an amount of the way towards another, rounded with a half going up. -/
def blend (amount : Float) (start stop : Nat) : Except Failure Int :=
  let moved := Float.ofNat start + Float.ofInt ((stop : Int) - start) * amount
  Number.roundHalfUp ((Number.float moved).clamp (.int 0) (.int 255))

/-- Whether an optional argument is left out: nothing or the empty text. -/
def leftOut : Value → Bool
  | .null => true
  | .text s => s.isEmpty
  | _ => false

/-- The first colour moved towards the second by the third argument. The alpha of the second
colour scales the amount; that of the first is kept. -/
def tint (args : List Value) : Report Value := do
  if (argument args 0).isNull || (argument args 1).isNull then return .null
  let base ← colorOf reader (argument args 0)
  let target ← colorOf reader (argument args 1)
  let some base := base | return .null
  let some target := target | return .null
  let given := argument args 2
  let some amount ← Step.ofExcept (amountOf (if leftOut given then .text tintAmount else given))
    | return .null
  Step.ofExcept do
    let amount := (← (Color.clampUnit (.float amount)).toFloat) * (← target.alpha.toFloat)
    let red ← blend amount base.red target.red
    let green ← blend amount base.green target.green
    let blue ← blend amount base.blue target.blue
    return .text (← Color.rgbaText red green blue base.alpha)

/-- The first colour with each channel inverted; its alpha is kept. -/
def invert (args : List Value) : Report Value := do
  let some color ← colorOf reader (argument args 0) | return .null
  return .text (← Step.ofExcept
    (Color.rgbaText (255 - color.red) (255 - color.green) (255 - color.blue) color.alpha))

end Retheme.Function
