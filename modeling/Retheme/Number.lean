import Retheme.Number.Notation
import Retheme.Number.Reader

/-!
# Numbers

A number is an integer of any size or a double. Comparisons between the two
are exact. Arithmetic goes through doubles, so an integer beyond them fails.
-/

namespace Retheme

/-- An integer of any size, or a double. -/
inductive Number where
  | int (n : Int)
  | float (x : Float)

namespace Number

def toFloat : Number → Except Failure Float
  | int n => match Binary64.ofInt? n with
    | some x => .ok x
    | none => .error .tooLarge
  | float x => .ok x

/-- Where a number lies: below every finite number, at a fraction, or above all; the double that
is no number lies nowhere. -/
inductive Place where
  | below
  | at (num : Int) (den : Nat)
  | above
  | nowhere

def place : Number → Place
  | int n => .at n 1
  | float x => match Binary64.shape x with
    | .finite negative mantissa exponent =>
      let (num, den) := Binary64.fraction mantissa exponent
      .at (if negative then -(num : Int) else num) den
    | .infinite negative => if negative then .below else .above
    | .nan => .nowhere

def less (a b : Number) : Bool :=
  match a.place, b.place with
  | .nowhere, _ => false
  | _, .nowhere => false
  | .below, .below => false
  | .below, _ => true
  | .at .., .below => false
  | .at m d, .at n e => m * e < n * d
  | .at .., .above => true
  | .above, _ => false

/-- A number kept within an inclusive range. An end is given only when the number lies strictly
beyond it; when the ends are the wrong way round, or the number lies nowhere, the comparisons
decide in the order upper end, lower end. -/
def clamp (value low high : Number) : Number :=
  let capped := if less value high then value else high
  if less low capped then capped else low

def floor (x : Float) : Except Failure Int :=
  match Binary64.shape x with
  | .finite negative mantissa exponent =>
    let (num, den) := Binary64.fraction mantissa exponent
    .ok ((if negative then -(num : Int) else num).fdiv den)
  | .infinite _ => .error .tooLarge
  | .nan => .error .notANumber

/-- The integer between a double and zero that is nearest to the double. -/
def truncate (x : Float) : Except Failure Int :=
  match Binary64.shape x with
  | .finite negative mantissa exponent =>
    let (num, den) := Binary64.fraction mantissa exponent
    .ok ((if negative then -(num : Int) else num).tdiv den)
  | .infinite _ => .error .tooLarge
  | .nan => .error .notANumber

/-- The nearest integer, a half going up. The half is added in doubles. -/
def roundHalfUp (value : Number) : Except Failure Int := do
  floor ((← value.toFloat) + 0.5)

def whole? (x : Float) : Option Int :=
  match Binary64.shape x with
  | .finite negative mantissa exponent =>
    let (num, den) := Binary64.fraction mantissa exponent
    if num % den = 0 then some (if negative then -((num / den : Nat) : Int) else (num / den : Nat))
    else none
  | _ => none

/-- The text of a number in a declaration: the digits of a whole double, else the notation of the
double. -/
def text (value : Number) : Except Failure Text := do
  let x ← value.toFloat
  match whole? x with
  | some n => return Integer.text n
  | none => return Decimal.floatText x

end Number

end Retheme
