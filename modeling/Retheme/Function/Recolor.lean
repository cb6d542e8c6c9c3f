import Retheme.Step
import Retheme.Function.Length
import Retheme.Text.CaseFold
import Retheme.Text.Base64
import Retheme.Text.Utf8
import Retheme.Text.Hex

/-!
# Recoloured pictures

In the text of a picture every occurrence of a colour is replaced by another.
Letter case does not count, and a number sign in front of an occurrence belongs
to it. The picture is given as an address that holds its bytes.
-/

namespace Retheme.Function

def startsWithLetters : Text → Text → Bool
  | [], _ => true
  | _ :: _, [] => false
  | a :: letters, c :: text => Text.sameLetter a c && startsWithLetters letters text

/-- How long the occurrence of letters at the front of a text is, with a number sign in front. -/
def occurrence? (letters : Text) : Text → Option Nat
  | [] => if letters.isEmpty then some 0 else none
  | c :: rest =>
    if c = '#' && startsWithLetters letters rest then some (letters.length + 1)
    else if startsWithLetters letters (c :: rest) then some letters.length
    else none

/-- A text in which every occurrence of letters is replaced. Empty letters occur in front of every
character and at the end. -/
def replaceLetters (letters replacement : Text) : Text → Text
  | [] => if letters.isEmpty then replacement else []
  | c :: rest =>
    match occurrence? letters (c :: rest) with
    | none => c :: replaceLetters letters replacement rest
    | some 0 => replacement ++ c :: replaceLetters letters replacement rest
    | some (length + 1) => replacement ++ replaceLetters letters replacement (rest.drop length)
termination_by text => text.length
decreasing_by
  all_goals simp only [List.length_cons, List.length_drop]
  all_goals omega

/-- Whether a text is six hexadecimal digits; a line feed may follow. -/
def isSixDigits (text : Text) : Bool :=
  (text.take 6).length = 6 && (text.take 6).all Text.isHexDigit &&
    (text.drop 6 = [] || text.drop 6 = ['\n'])

/-- A replacement colour; six hexadecimal digits get a number sign. -/
def replacementColor (value : Value) : Except Failure Text := do
  let color ← declaredOrEmpty value
  return if isSixDigits color then '#' :: color else color

def recolored (picture : Text) : List (Text × Value) → Except Failure Text
  | [] => .ok picture
  | (sought, replacement) :: rest => do
    let color ← replacementColor replacement
    recolored (replaceLetters (sought.dropWhile (· = '#')) color picture) rest

/-- The first argument, the text of a picture, with the colours that the second lists between bars
replaced by the arguments behind it. -/
def mapSvgColors (args : List Value) : Report Value :=
  match args with
  | picture :: sought :: replacement :: more => do
    if !picture.truthy || !sought.truthy then
      Report.event .recolorNeedsArguments
      return .null
    let picture ← Step.ofExcept picture.shown
    let sought := ((← Step.ofExcept sought.shown).split '|').map Text.strip
    let replacements := replacement :: more
    if sought.length ≠ replacements.length then
      Report.event (.recolorCounts sought.length replacements.length)
      return .null
    let result ← Step.ofExcept (recolored picture (sought.zip replacements))
    return .text ("data:image/svg+xml;base64," ++ Text.base64 result.utf8)
  | _ => do
    Report.event .recolorNeedsArguments
    return .null

end Retheme.Function
