import Retheme.Text.Basic

/-!
# Blank characters

White space of every script, the four information separators included. A
text is stripped of blanks at both ends, cut into words, or freed of them.
-/

namespace Retheme.Text

def blankRanges : List (Nat × Nat) :=
  [(0x09, 0x0d), (0x1c, 0x20), (0x85, 0x85), (0xa0, 0xa0), (0x1680, 0x1680), (0x2000, 0x200a),
    (0x2028, 0x2029), (0x202f, 0x202f), (0x205f, 0x205f), (0x3000, 0x3000)]

def isBlank (c : Char) : Bool :=
  blankRanges.any fun (first, last) => first ≤ c.toNat && c.toNat ≤ last

def isInformationSeparator (c : Char) : Bool := '\x1c' ≤ c && c ≤ '\x1f'

def strip (text : Text) : Text := trim isBlank text

def stripEnd (text : Text) : Text := dropEndWhile isBlank text

def removeBlanks (text : Text) : Text := text.filter (!isBlank ·)

def words : Text → List Text
  | [] => []
  | c :: rest =>
    if isBlank c then words rest
    else match rest, words rest with
      | next :: _, word :: more => if isBlank next then [c] :: word :: more else (c :: word) :: more
      | _, more => [c] :: more

def squeezeBlanks (text : Text) : Text := join [' '] (words text)

end Retheme.Text
