import Retheme.Text.Digit

/-!
# Punycode

A label is written with the characters of ASCII alone: first its own ones, then
the others, in the order of their code points, as numbers that say how far a
counter runs before the next one is put in. A number has digits of base 36,
the least significant one first; the threshold below which a digit ends its
number follows a bias, which adapts to the numbers so far.
-/

namespace Retheme.Web.Punycode

-- ---------------------------------------------------------------------------
-- Numbers
-- ---------------------------------------------------------------------------

/-- The character of a digit; defined for `digit < 36`. -/
def digitChar (digit : Nat) : Char :=
  if digit < 26 then Char.ofNat (97 + digit) else Char.ofNat (22 + digit)

def digitOf? (c : Char) : Option Nat :=
  if 'a' ≤ c && c ≤ 'z' then some (c.toNat - 97)
  else if 'A' ≤ c && c ≤ 'Z' then some (c.toNat - 65)
  else if Text.isAsciiDigit c then some (c.toNat - 22)
  else none

/-- The threshold of the digit whose place is `place`, counted in steps of 36 from 36 on. -/
def threshold (bias place : Nat) : Nat :=
  if place ≤ bias then 1 else if bias + 26 ≤ place then 26 else place - bias

theorem threshold_pos (bias place : Nat) : 0 < threshold bias place := by
  unfold threshold
  split
  · omega
  · split <;> omega

def digits (bias place n : Nat) : Text :=
  let least := threshold bias place
  if n < least then [digitChar n]
  else
    digitChar (least + (n - least) % (36 - least)) ::
      digits bias (place + 36) ((n - least) / (36 - least))
termination_by n
decreasing_by
  have := threshold_pos bias place
  have := Nat.div_le_self (n - threshold bias place) (36 - threshold bias place)
  omega

def shrink (n : Nat) : Nat × Nat :=
  if 455 < n then
    let (count, rest) := shrink (n / 35)
    (count + 1, rest)
  else (0, n)
termination_by n
decreasing_by exact Nat.div_lt_self (by omega) (by omega)

/-- The bias after a number, with so many characters there. The first number is damped. -/
def adapt (isFirst : Bool) (n count : Nat) : Nat :=
  let n := if isFirst then n / 700 else n / 2
  let (steps, rest) := shrink (n + n / count)
  36 * steps + 36 * rest / (rest + 38)

-- ---------------------------------------------------------------------------
-- Writing
-- ---------------------------------------------------------------------------

/-- Where writing stands: the counter since the last number, the bias, how many characters are
written, and whether a number was. -/
structure Progress where
  counter : Nat
  bias : Nat
  count : Nat
  isFirst : Bool

/-- The text is gone through once for the characters of one code point; the counter runs on at every
lower one. -/
def pass (code : Nat) (progress : Progress) : Text → Text × Progress
  | [] => ([], progress)
  | c :: rest =>
    if c.toNat < code then pass code { progress with counter := progress.counter + 1 } rest
    else if c.toNat = code then
      let number := digits progress.bias 36 progress.counter
      let bias := adapt progress.isFirst progress.counter (progress.count + 1)
      let (more, progress) := pass code ⟨0, bias, progress.count + 1, false⟩ rest
      (number ++ more, progress)
    else pass code progress rest

/-- The text is gone through once for each of some code points in order; `next` is the least code
point not gone through. -/
def passes (text : Text) (next : Nat) (progress : Progress) : List Nat → Text
  | [] => []
  | code :: codes =>
    let progress :=
      { progress with counter := progress.counter + (code - next) * (progress.count + 1) }
    let (written, progress) := pass code progress text
    written ++ passes text (code + 1) { progress with counter := progress.counter + 1 } codes

def isBasic (c : Char) : Bool := c.toNat < 0x80

def encode (text : Text) : Text :=
  let basic := text.filter isBasic
  let codes := ((text.filter (!isBasic ·)).map Char.toNat).eraseDups.mergeSort (· ≤ ·)
  (if basic.isEmpty then [] else basic ++ ['-']) ++
    passes text 0x80 ⟨0, 72, basic.length, true⟩ codes

-- ---------------------------------------------------------------------------
-- Reading
-- ---------------------------------------------------------------------------

/-- The number at the front of a text, and the text after it; `weight` is what a digit at this place
counts. -/
def readNumber? (bias place weight : Nat) : Text → Option (Nat × Text)
  | [] => none
  | c :: rest => do
    let digit ← digitOf? c
    let least := threshold bias place
    if digit < least then return (digit * weight, rest)
    let (more, rest) ← readNumber? bias (place + 36) (weight * (36 - least)) rest
    return (digit * weight + more, rest)

/-- The characters that numbers put into a text; each number takes at least one character, so there
are no more of them than `fuel`. The last character put in has the code point `code` and stands in
front of `place`. -/
def insertAll? (fuel bias code place : Nat) (isFirst : Bool) (text numbers : Text) :
    Option Text :=
  match fuel, numbers with
  | _, [] => some text
  | 0, _ => none
  | fuel + 1, numbers => do
    let (number, rest) ← readNumber? bias 36 1 numbers
    let count := text.length + 1
    let code := code + (place + number) / count
    let place := (place + number) % count
    if !code.isValidChar then none
    else
      insertAll? fuel (adapt isFirst number count) code (place + 1) false
        (text.take place ++ Char.ofNat code :: text.drop place) rest

def decode? (text : Text) : Option Text :=
  let numbers := Text.takeEndWhile (· != '-') text
  let basic := (Text.dropEndWhile (· != '-') text).dropLast
  insertAll? numbers.length 72 0x80 0 true basic numbers

end Retheme.Web.Punycode
