import Retheme.Color.Basic
import Retheme.Color.Names
import Retheme.Text.Blank

/-!
# Reading colours

A text is a colour if it is the name of one, three, four, six or eight
hexadecimal digits behind a number sign, or red, green and blue, or hue,
saturation and lightness in functional notation. The channels of the last are
computed in doubles, in a fixed order of operations.
-/

namespace Retheme.Color

-- ---------------------------------------------------------------------------
-- Channels
-- ---------------------------------------------------------------------------

/-- A double kept between 0 and 1; the sign of a zero stays. -/
def clampFloat (x : Float) : Float := if x < 0.0 then 0.0 else if 1.0 < x then 1.0 else x

def channelOf (x : Float) : Except Failure Nat := do
  return min (← Number.truncate x).toNat 255

def hueLevel (low high hue : Float) : Float :=
  let hue := Binary64.modulo hue 1
  if hue < 1.0 / 6.0 then low + (high - low) * hue * 6.0
  else if hue < 0.5 then high
  else if hue < 2.0 / 3.0 then low + (high - low) * (2.0 / 3.0 - hue) * 6.0
  else low

def ofHue (hue saturation lightness : Float) : Float × Float × Float :=
  if saturation == 0.0 then (lightness, lightness, lightness)
  else
    let high :=
      if lightness ≤ 0.5 then lightness * (1.0 + saturation)
      else lightness + saturation - lightness * saturation
    let low := 2.0 * lightness - high
    (hueLevel low high (hue + 1.0 / 3.0), hueLevel low high hue,
      hueLevel low high (hue - 1.0 / 3.0))

-- ---------------------------------------------------------------------------
-- Functional notation
-- ---------------------------------------------------------------------------

/-- A field of a functional notation: what its decimal counts, and whether the blanks between the
decimal and the commas beside it may surround a numeral. -/
structure Field where
  value : Float
  tight : Bool

def Field.number (field : Field) : Except Failure Float :=
  if field.tight then .ok field.value else .error .notANumeral

/-- A decimal at the front of a text: an optional minus, digits, an optional point and more
digits; a percentage has a percent sign behind it. -/
def readDecimal? (percent : Bool) (text : Text) : Option (Float × Text) :=
  let (negative, unsigned) := match text with
    | '-' :: rest => (true, rest)
    | rest => (false, rest)
  let whole := unsigned.takeWhile Text.isDigit
  let (fraction, rest) := match unsigned.dropWhile Text.isDigit with
    | '.' :: rest => (rest.takeWhile Text.isDigit, rest.dropWhile Text.isDigit)
    | rest => ([], rest)
  if whole.isEmpty then none
  else
    let value := Decimal.Numeral.value ⟨negative, whole, fraction, none⟩
    match percent, rest with
    | false, _ => some (value, rest)
    | true, '%' :: rest => some (value, rest)
    | true, _ => none

/-- The fields of a functional notation, each with or without a percent sign as given, up to the
closing parenthesis at the end of the text. The first of all fields stands behind the opening
parenthesis, every other one behind a comma. -/
def readFields? (isFirst : Bool) : List Bool → Text → Option (List Field)
  | [], _ => none
  | percent :: more, text => do
    let before := text.takeWhile Text.isBlank
    let (value, rest) ← readDecimal? percent (text.drop before.length)
    let after := rest.takeWhile Text.isBlank
    let tight (blanks : Text) : Bool := !blanks.any Text.isInformationSeparator
    let field : Field :=
      ⟨value, (isFirst || tight before) && (more.isEmpty || tight after)⟩
    match more, rest.drop after.length with
    | [], [')'] => some [field]
    | _ :: _, ',' :: rest => (readFields? false more rest).map (field :: ·)
    | _, _ => none

def ofRgb (red green blue : Float) (alpha : Number) : Except Failure Color := do
  return ⟨← channelOf red, ← channelOf green, ← channelOf blue, alpha⟩

/-- A colour from the fields of a functional notation with hue and two percentages. -/
def ofHsl (hue saturation lightness : Float) (alpha : Number) : Except Failure Color :=
  let (red, green, blue) := ofHue (Binary64.modulo hue 360 / 360.0)
    (clampFloat (saturation / 100.0)) (clampFloat (lightness / 100.0))
  ofRgb (red * 255.0 + 0.5) (green * 255.0 + 0.5) (blue * 255.0 + 0.5) alpha

/-- A colour in functional notation. The channels in front of an alpha are read before any of them
is made an integer. Blanks between a percentage and a comma are of any kind. -/
def readFunction? (text : Text) : Except Failure (Option Color) :=
  let fields (name : String) (percents : List Bool) : Option (List Field) :=
    if name.toList.isPrefixOf text then
      readFields? true percents (text.drop name.toList.length)
    else none
  match fields "rgb(" [false, false, false], fields "rgba(" [false, false, false, false],
      fields "hsl(" [false, true, true], fields "hsla(" [false, true, true, false] with
  | some [r, g, b], _, _, _ => do
    let red ← channelOf (← r.number)
    let green ← channelOf (← g.number)
    let blue ← channelOf (← b.number)
    return some ⟨red, green, blue, opaqueAlpha⟩
  | _, some [r, g, b, a], _, _ => do
    let color ← ofRgb (← r.number) (← g.number) (← b.number) (.float (clampFloat (← a.number)))
    return some color
  | _, _, some [h, s, l], _ => do
    return some (← ofHsl (← h.number) s.value l.value opaqueAlpha)
  | _, _, _, some [h, s, l, a] => do
    return some (← ofHsl (← h.number) s.value l.value (.float (clampFloat (← a.number))))
  | _, _, _, _ => .ok none

-- ---------------------------------------------------------------------------
-- Hexadecimal digits and names
-- ---------------------------------------------------------------------------

/-- A colour from hexadecimal digits. One digit for a channel counts as that digit twice. -/
def ofHexDigits? (digits : Text) : Option Color :=
  if !digits.all Text.isHexDigit then none
  else
    let doubled := if digits.length ≤ 4 then digits.flatMap fun c => [c, c] else digits
    let rgb := Text.hexNumber (doubled.take 6)
    match digits.length with
    | 3 => some (ofNumber rgb opaqueAlpha)
    | 6 => some (ofNumber rgb opaqueAlpha)
    | 4 => some (ofNumber rgb (.float ((Text.hexNumber (doubled.drop 6)).toFloat / 255.0)))
    | 8 => some (ofNumber rgb (.float ((Text.hexNumber (doubled.drop 6)).toFloat / 255.0)))
    | _ => none

def named? (text : Text) : Option Color :=
  if text = "ansi_default".toList then some (ofNumber 0 opaqueAlpha)
  else if text = "transparent".toList then some (ofNumber 0 (.int 0))
  else (names.find? fun (name, _) => name.toList = text).map fun (_, rgb) =>
    ofNumber rgb opaqueAlpha

/-- The colour that a text without blanks at its ends stands for. -/
def read? (text : Text) : Except Failure (Option Color) :=
  match named? text, text with
  | some color, _ => .ok (some color)
  | none, '#' :: digits => .ok (ofHexDigits? digits)
  | none, _ => readFunction? text

end Retheme.Color
