import Retheme.Web.Label.Mark
import Retheme.Web.Label.Permitted

/-!
# Writing direction

A label with a character written from right to left has to keep its order on
the page wherever it stands: it begins with a letter written in that
direction, has none of the other, uses digits of one kind, and ends with a
letter or a digit.
-/

namespace Retheme.Web.Label

inductive Direction where
  | leftToRight
  | rightToLeft
  /-- A digit as European scripts and Persian write it. -/
  | europeanDigit
  /-- A digit as Arabic writes it. -/
  | arabicDigit
  /-- A mark above or below the character in front of it. -/
  | nonspacing
  | neutral
  /-- How the character is written is not known. -/
  | unknown
  deriving DecidableEq, Repr

def rightToLeftRanges : List (Nat × Nat) :=
  [
    (0x5d0, 0x5f4), (0x620, 0x64a), (0x66e, 0x66f), (0x671, 0x6d5), (0x6e5, 0x6e6), (0x6ee, 0x6ef),
    (0x6fa, 0x710), (0x712, 0x72f), (0x74d, 0x7a5), (0x7b1, 0x7ea), (0x7f4, 0x7f5), (0x800, 0x815),
    (0x81a, 0x81a), (0x824, 0x824), (0x828, 0x828), (0x840, 0x858), (0x860, 0x88e), (0x8a0, 0x8c9),
    (0xfe73, 0xfe73), (0x10800, 0x10a00), (0x10a10, 0x10a35), (0x10a60, 0x10ae4),
    (0x10b00, 0x10d23), (0x10e80, 0x10ea9), (0x10eb0, 0x10f45), (0x10f70, 0x10f81),
    (0x10fb0, 0x10ff6), (0x1e800, 0x1e8c4), (0x1e922, 0x1e943), (0x1e94b, 0x1e959)]

def arabicDigitRanges : List (Nat × Nat) := [(0x660, 0x669), (0x10d30, 0x10d39)]

def europeanDigitRanges : List (Nat × Nat) := [(0x30, 0x39), (0x6f0, 0x6f9)]

def neutralRanges : List (Nat × Nat) :=
  [
    (0x2d, 0x2d), (0xb7, 0xb7), (0x2b9, 0x2ba), (0x2c6, 0x2cf), (0x2ec, 0x2ec), (0x375, 0x375),
    (0x2e2f, 0x2e2f), (0x30fb, 0x30fb), (0xa67f, 0xa67f), (0xa717, 0xa71f), (0xa788, 0xa788),
    (0x200c, 0x200d)]

def leftToRightMarks : List Nat := [0xcbf, 0xcc6, 0x11a07, 0x11a08, 0x11c3f]

def unknownRanges : List (Nat × Nat) :=
  [
    (0x88f, 0x897), (0xc5c, 0xc5c), (0xcdc, 0xcdc), (0xcf3, 0xcf3), (0xece, 0xece),
    (0x1acf, 0x1aeb), (0x1c8a, 0x1c8a), (0xa7cd, 0xa7cf), (0xa7db, 0xa7db), (0x105c0, 0x105f3),
    (0x10940, 0x10959), (0x10d40, 0x10d85), (0x10ec2, 0x10eff), (0x1123f, 0x11241),
    (0x11380, 0x113e2), (0x116d0, 0x116e3), (0x11b60, 0x11bf9), (0x11db0, 0x11de9),
    (0x11f00, 0x11f5a), (0x1342f, 0x143fa), (0x16100, 0x16139), (0x16d40, 0x16d79),
    (0x16ebb, 0x16ed3), (0x16ff2, 0x16ff3), (0x187f8, 0x187ff), (0x18cff, 0x18cff),
    (0x18d09, 0x18df2), (0x1b132, 0x1b132), (0x1b155, 0x1b155), (0x1df25, 0x1df2a),
    (0x1e08f, 0x1e08f), (0x1e4d0, 0x1e6ff), (0x2b739, 0x2b73f), (0x2cea2, 0x2cead),
    (0x2ebf0, 0x2ee5d), (0x31350, 0x33479)]

def direction (c : Char) : Direction :=
  if isIn unknownRanges c then .unknown
  else if isIn rightToLeftRanges c then .rightToLeft
  else if isIn europeanDigitRanges c then .europeanDigit
  else if isIn arabicDigitRanges c then .arabicDigit
  else if isIn neutralRanges c then .neutral
  else if isNonspacing c && !leftToRightMarks.contains c.toNat then .nonspacing
  else .leftToRight

def keepsOrder (label : Text) : Bool :=
  let directions := label.map direction
  let ends : Bool := match (directions.reverse.dropWhile (· = .nonspacing)).head? with
    | some .rightToLeft | some .europeanDigit | some .arabicDigit => true
    | _ => false
  !directions.contains .unknown &&
    (!(directions.contains .rightToLeft || directions.contains .arabicDigit) ||
      (directions.head? = some .rightToLeft && !directions.contains .leftToRight &&
        !(directions.contains .europeanDigit && directions.contains .arabicDigit) && ends))

end Retheme.Web.Label
