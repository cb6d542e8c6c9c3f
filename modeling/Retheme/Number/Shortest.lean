import Retheme.Number.Binary64

/-!
# Shortest decimals

Every real number of an interval around a double rounds to the double. The
decimal chosen for it is, of all decimals in the interval, one with the fewest
significant digits, and of those the nearest to the double.
-/

namespace Retheme.Decimal

/-- The decimal `digits * 10 ^ exponent`. -/
structure Scaled where
  digits : Nat
  exponent : Int
  deriving DecidableEq, Repr

-- ---------------------------------------------------------------------------
-- Intervals
-- ---------------------------------------------------------------------------

/-- The real numbers that round to a positive double, as fractions over `4 * den`: the double is
`4 * num`, the ends are `low` and `high`, and they belong to the interval when `closed`. -/
structure Interval where
  num : Nat
  den : Nat
  low : Nat
  high : Nat
  closed : Bool

/-- The interval of the double `mantissa * 2 ^ exponent`. Below a power of two the doubles lie half
as far apart. -/
def Interval.ofDouble (mantissa : Nat) (exponent : Int) : Interval :=
  let scale := twoTo exponent.toNat
  let narrow := mantissa = twoTo 52 && Binary64.minExponent < exponent
  { num := mantissa * scale
    den := twoTo (-exponent).toNat
    low := (4 * mantissa - if narrow then 1 else 2) * scale
    high := (4 * mantissa + 2) * scale
    closed := mantissa % 2 = 0 }

def Interval.holds (interval : Interval) (digits : Nat) (exponent : Int) : Bool :=
  let value := 4 * digits * tenTo exponent.toNat * interval.den
  let unit := tenTo (-exponent).toNat
  let low := interval.low * unit
  let high := interval.high * unit
  if interval.closed then low ≤ value && value ≤ high else low < value && value < high

def leastPower (num den : Nat) : Int :=
  let guess : Int := (((num.log2 : Int) - den.log2) * 30103).fdiv 100000
  let exceeds (k : Int) : Bool := num * tenTo (-k).toNat < den * tenTo k.toNat
  ([guess - 1, guess, guess + 1].find? exceeds).getD (guess + 2)

-- ---------------------------------------------------------------------------
-- Grids
-- ---------------------------------------------------------------------------

/-- Of the two neighbours of the double on the grid of step `10 ^ exponent`, those in the
interval; of two the nearer, and the even one when both are equally near. -/
def Interval.neighbour? (interval : Interval) (exponent : Int) : Option Nat :=
  let num := interval.num * tenTo (-exponent).toNat
  let den := interval.den * tenTo exponent.toNat
  let below := num / den
  match interval.holds below exponent, interval.holds (below + 1) exponent with
  | true, true => some (Binary64.roundDiv num den)
  | true, false => some below
  | false, true => some (below + 1)
  | false, false => none

/-- The first grid with a point in the interval, from the coarsest of `steps` grids on. -/
def Interval.search (interval : Interval) : Nat → Int → Option Scaled
  | 0, _ => none
  | steps + 1, exponent =>
    match interval.neighbour? exponent with
    | some digits => some ⟨digits, exponent⟩
    | none => interval.search steps (exponent - 1)

def Scaled.trimmed (decimal : Scaled) : Scaled :=
  if h : decimal.digits ≠ 0 ∧ decimal.digits % 10 = 0 then
    have : decimal.digits / 10 < decimal.digits := by omega
    Scaled.trimmed ⟨decimal.digits / 10, decimal.exponent + 1⟩
  else decimal
termination_by decimal.digits

/-- The shortest decimal of the positive double `mantissa * 2 ^ exponent`. Seventeen digits always
suffice. -/
def shortest (mantissa : Nat) (exponent : Int) : Scaled :=
  let interval := Interval.ofDouble mantissa exponent
  let power := leastPower interval.num interval.den
  ((interval.search 17 (power - 1)).getD ⟨0, 0⟩).trimmed

end Retheme.Decimal
