/-!
# Failures of operations on values

An operation that gives no answer says why. A failure is a cause; no wording
belongs to it.
-/

namespace Retheme

inductive Failure where
  /-- An integer lies beyond the doubles, or an infinity was to become an integer. -/
  | tooLarge
  /-- The double that is no number was to become an integer. -/
  | notANumber
  /-- A text that was to be read as a number is not one. -/
  | notANumeral
  /-- A numeral in decimal digits is longer than the limit. -/
  | tooManyDigits
  /-- An operation was given a value of a kind it does not work on. -/
  | wrongKind
  /-- A function was called with too few arguments. -/
  | missingArgument
  /-- A function or a callback supplied from outside gave up. -/
  | gaveUp
  /-- Work was to be waited for without an event loop. -/
  | noEventLoop
  deriving DecidableEq, Repr

end Retheme
