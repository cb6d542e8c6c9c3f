import Retheme.Number.Power

/-!
# Doubles as exact numbers

A double is taken apart into sign, mantissa and exponent, and the double
nearest to a fraction is put together, with a tie going to the even mantissa.
Both directions are integer arithmetic.
-/

namespace Retheme.Binary64

/-- What a double stands for: plus or minus `mantissa * 2 ^ exponent`, an infinity, or no number. -/
inductive Shape where
  | finite (negative : Bool) (mantissa : Nat) (exponent : Int)
  | infinite (negative : Bool)
  | nan
  deriving DecidableEq, Repr

def minExponent : Int := -1074

def shapeOfBits (bits : Nat) : Shape :=
  let negative := bits / twoTo 63 == 1
  let biased : Nat := bits / twoTo 52 % twoTo 11
  let fraction : Nat := bits % twoTo 52
  if biased = 2047 then (if fraction = 0 then .infinite negative else .nan)
  else if biased = 0 then .finite negative fraction minExponent
  else .finite negative (twoTo 52 + fraction) ((biased : Int) - 1075)

def shape (x : Float) : Shape := shapeOfBits x.toBits.toNat

/-- A quotient rounded to the nearest integer, a tie to the even one; defined for `0 < den`. -/
def roundDiv (num den : Nat) : Nat :=
  let quotient := num / den
  let twice := 2 * (num % den)
  if twice < den then quotient
  else if den < twice then quotient + 1
  else quotient + quotient % 2

/-- The greatest `k` with `2 ^ k ≤ num / den`; defined for positive arguments. -/
def floorLog (num den : Nat) : Int :=
  let guess : Int := num.log2 - den.log2
  if num * twoTo (-guess).toNat < den * twoTo guess.toNat then guess - 1 else guess

/-- The bits of the double nearest to a nonnegative fraction; defined for `0 < den`. A fraction
beyond the greatest double gives the bits of infinity. -/
def nearestBits (num den : Nat) : Nat :=
  if num = 0 then 0
  else
    let exponent := max (floorLog num den - 52) minExponent
    let mantissa := roundDiv (num * twoTo (-exponent).toNat) (den * twoTo exponent.toNat)
    min ((exponent - minExponent).toNat * twoTo 52 + mantissa) (2047 * twoTo 52)

def nearest (negative : Bool) (num den : Nat) : Float :=
  Float.ofBits (UInt64.ofNat (nearestBits num den + if negative then twoTo 63 else 0))

def ofInt? (n : Int) : Option Float :=
  if nearestBits n.natAbs 1 = 2047 * twoTo 52 then none else some (nearest (n < 0) n.natAbs 1)

def positiveInfinity : Float := Float.ofBits 0x7ff0000000000000

def negativeInfinity : Float := Float.ofBits 0xfff0000000000000

def nan : Float := Float.ofBits 0x7ff8000000000000

def fraction (mantissa : Nat) (exponent : Int) : Nat × Nat :=
  (mantissa * twoTo exponent.toNat, twoTo (-exponent).toNat)

/-- The remainder of a double by a positive integer, with the sign of the integer: the exact
remainder of the magnitude, taken from the integer when the double is negative. An infinity and
the double that is no number have none. -/
def modulo (x : Float) (modulus : Nat) : Float :=
  match shape x with
  | .finite negative mantissa exponent =>
    let (num, den) := fraction mantissa exponent
    let rest := num % (modulus * den)
    if rest = 0 then 0.0
    else if negative then nearest true rest den + modulus.toFloat
    else nearest false rest den
  | _ => nan

end Retheme.Binary64
