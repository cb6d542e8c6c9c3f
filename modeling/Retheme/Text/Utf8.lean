import Retheme.Text.Basic

/-!
# UTF-8

Texts as bytes. Overlong forms, surrogates and code points beyond the last plane
are no characters. Strict reading refuses bytes that are no text; lossy reading
puts a replacement character in their place.
-/

namespace Retheme.Text

def utf8Char (c : Char) : List UInt8 :=
  let n := c.toNat
  if n < 0x80 then [n.toUInt8]
  else if n < 0x800 then [(0xc0 + n / 0x40).toUInt8, (0x80 + n % 0x40).toUInt8]
  else if n < 0x10000 then
    [(0xe0 + n / 0x1000).toUInt8, (0x80 + n / 0x40 % 0x40).toUInt8, (0x80 + n % 0x40).toUInt8]
  else
    [(0xf0 + n / 0x40000).toUInt8, (0x80 + n / 0x1000 % 0x40).toUInt8,
      (0x80 + n / 0x40 % 0x40).toUInt8, (0x80 + n % 0x40).toUInt8]

def utf8 (text : Text) : List UInt8 := text.flatMap utf8Char

/-- The character of a code point that needs at least `least` to be written with so many bytes. -/
def charAtLeast? (least code : Nat) : Option Char :=
  if least ≤ code ∧ Nat.isValidChar code then some (Char.ofNat code) else none

def continuation? (byte : UInt8) : Option Nat :=
  if 0x80 ≤ byte && byte < 0xc0 then some (byte.toNat - 0x80) else none

/-- The text of bytes, or none when they are not the bytes of a text. -/
def ofUtf8? : List UInt8 → Option Text
  | [] => some []
  | a :: rest =>
    if a < 0x80 then (ofUtf8? rest).map (Char.ofNat a.toNat :: ·)
    else match rest with
      | [] => none
      | b :: rest =>
        if 0xc0 ≤ a && a < 0xe0 then do
          let c ← charAtLeast? 0x80 ((a.toNat - 0xc0) * 0x40 + (← continuation? b))
          return c :: (← ofUtf8? rest)
        else match rest with
          | [] => none
          | d :: rest =>
            if 0xe0 ≤ a && a < 0xf0 then do
              let code := (a.toNat - 0xe0) * 0x1000 + (← continuation? b) * 0x40 +
                (← continuation? d)
              let c ← charAtLeast? 0x800 code
              return c :: (← ofUtf8? rest)
            else match rest with
              | [] => none
              | e :: rest =>
                if 0xf0 ≤ a && a < 0xf8 then do
                  let code := (a.toNat - 0xf0) * 0x40000 + (← continuation? b) * 0x1000 +
                    (← continuation? d) * 0x40 + (← continuation? e)
                  let c ← charAtLeast? 0x10000 code
                  return c :: (← ofUtf8? rest)
                else none

/-- How many bytes at the front of a list go on with the character that a byte begins. The byte
right behind the first one is limited further by it. -/
def continuing (lead : UInt8) (rest : List UInt8) : Nat :=
  let (count, least, greatest) : Nat × UInt8 × UInt8 :=
    if lead < 0xc2 || 0xf4 < lead then (0, 0x80, 0xbf)
    else if lead < 0xe0 then (1, 0x80, 0xbf)
    else if lead < 0xf0 then
      (2, if lead = 0xe0 then 0xa0 else 0x80, if lead = 0xed then 0x9f else 0xbf)
    else (3, if lead = 0xf0 then 0x90 else 0x80, if lead = 0xf4 then 0x8f else 0xbf)
  match rest.take count with
  | [] => 0
  | second :: more =>
    if least ≤ second && second ≤ greatest then
      1 + (more.takeWhile fun byte => (continuation? byte).isSome).length
    else 0

/-- The text of bytes. The longest part of a character that is not there as a whole becomes one
replacement character, as does any other byte that begins no character. -/
def ofUtf8Lossy : List UInt8 → Text
  | [] => []
  | lead :: rest =>
    let count := continuing lead rest
    let c := match ofUtf8? (lead :: rest.take count) with
      | some [c] => c
      | _ => '\ufffd'
    c :: ofUtf8Lossy (rest.drop count)
termination_by bytes => bytes.length
decreasing_by
  simp only [List.length_cons, List.length_drop]
  omega

/-- A text in which every line ends with a line feed alone: a carriage return, with or without a
line feed behind it, becomes one. -/
def normalizeLines : Text → Text
  | '\r' :: '\n' :: rest => '\n' :: normalizeLines rest
  | '\r' :: rest => '\n' :: normalizeLines rest
  | c :: rest => c :: normalizeLines rest
  | [] => []

end Retheme.Text
