import Mathlib
import Retheme.Proofs.Color.Range
import Retheme.Proofs.Number.Numeral
import Retheme.Proofs.Text.Ends

/-!
# Colours in functional notation read back

A colour that is written in functional notation is read as its channels and the
number of its alpha, if the numeral of the alpha has no exponent. A numeral with
an exponent is no field of a notation, and the text is no colour.
-/

namespace Retheme

namespace Text

variable {c : Char}

theorem toNat_of_isAsciiDigit (h : isAsciiDigit c = true) : 48 ≤ c.toNat ∧ c.toNat ≤ 57 := by
  simp only [isAsciiDigit, Bool.and_eq_true, decide_eq_true_eq] at h
  exact h

theorem isDigit_of_isAsciiDigit (h : isAsciiDigit c = true) : isDigit c = true := by
  obtain ⟨hl, hu⟩ := toNat_of_isAsciiDigit h
  have hlt : c.toNat < 58 := by omega
  simp [isDigit, digitValue?, digitZeros, hl, hlt]

theorem isBlank_of_isAsciiDigit (h : isAsciiDigit c = true) : isBlank c = false := by
  obtain ⟨hl, hu⟩ := toNat_of_isAsciiDigit h
  simp [isBlank, blankRanges]
  omega

end Text

namespace Color

open Binary64 (shape toRat?)
open Decimal (Numeral fractionText exponentText)
open Integer (IsWhole)

variable {rest whole fraction : Text} {red green blue : Nat}

-- ---------------------------------------------------------------------------
-- Fields
-- ---------------------------------------------------------------------------

def EndsDecimal (rest : Text) : Prop := ∀ c, rest.head? = some c → Text.isDigit c = false ∧ c ≠ '.'

theorem split_fraction (hf : ∀ c ∈ fraction, Text.isDigit c = true) (hr : EndsDecimal rest) :
    (match fractionText fraction ++ rest with
      | '.' :: rest => (rest.takeWhile Text.isDigit, rest.dropWhile Text.isDigit)
      | rest => ([], rest)) = (fraction, rest) := by
  cases fraction with
  | nil =>
    rw [fractionText, List.isEmpty_nil, if_pos rfl, List.nil_append]
    split
    · exact absurd rfl (hr _ rfl).2
    · rfl
  | cons c more =>
    obtain ⟨htake, hdrop⟩ := Text.takeWhile_append_of_head hf fun c hc => (hr c hc).1
    rw [fractionText, List.isEmpty_cons, if_neg Bool.false_ne_true, List.cons_append]
    simp only [htake, hdrop]

theorem readDecimal?_append (hw : IsWhole whole)
    (hf : ∀ c ∈ fraction, Text.isAsciiDigit c = true) (hr : EndsDecimal rest) :
    readDecimal? false (whole ++ fractionText fraction ++ rest) =
      some (Numeral.value ⟨false, whole, fraction, none⟩, rest) := by
  have hfraction : ∀ c ∈ fraction, Text.isDigit c = true :=
    fun c hc => Text.isDigit_of_isAsciiDigit (hf c hc)
  have hends : ∀ c, (fractionText fraction ++ rest).head? = some c → Text.isDigit c = false := by
    intro c hc
    rw [fractionText] at hc
    split at hc
    · exact (hr c hc).1
    · obtain rfl : '.' = c := by simpa using hc
      decide
  obtain ⟨htake, hdrop⟩ := Text.takeWhile_append_of_head
    (fun c hc => Text.isDigit_of_isAsciiDigit (hw.digit c hc)) hends
  have hsign : ∀ unsigned, whole ++ (fractionText fraction ++ rest) = '-' :: unsigned → False := by
    intro unsigned h
    cases whole with
    | nil => exact hw.ne_nil rfl
    | cons c more =>
      obtain rfl : c = '-' := (List.cons.inj h).1
      exact absurd (hw.digit '-' (by simp)) (by decide)
  rw [List.append_assoc, readDecimal?]
  · simp only [htake, hdrop, List.isEmpty_iff, hw.ne_nil, if_false]
    exact congrArg (fun parts : Text × Text =>
      some (Numeral.value ⟨false, whole, parts.1, none⟩, parts.2)) (split_fraction hfraction hr)
  · exact hsign

theorem readFields?_comma (isFirst : Bool) {before : Text} {more : List Bool} {x : Float}
    (hb : before = [] ∨ before = [' ']) (hm : more ≠ []) {text : Text}
    (ht : ∀ c, text.head? = some c → Text.isBlank c = false)
    (hd : readDecimal? false text = some (x, ',' :: rest)) :
    readFields? isFirst (false :: more) (before ++ text) =
      (readFields? false more rest).map (⟨x, true⟩ :: ·) := by
  have hblank : ∀ c ∈ before, Text.isBlank c = true := by
    rcases hb with rfl | rfl <;> decide
  have htight : before.any Text.isInformationSeparator = false := by
    rcases hb with rfl | rfl <;> decide
  obtain ⟨htake, -⟩ := Text.takeWhile_append_of_head hblank ht
  rw [readFields?, htake, List.drop_left, hd]
  cases more with
  | nil => exact absurd rfl hm
  | cons percent more =>
    have hcomma : Text.isBlank ',' = false := by decide
    simp [htight, hcomma]

theorem readFields?_last {x : Float} {text : Text}
    (ht : ∀ c, text.head? = some c → Text.isBlank c = false)
    (hd : readDecimal? false text = some (x, rest))
    (hr : ∀ c, rest.head? = some c → Text.isBlank c = false) :
    readFields? false [false] (' ' :: text) = if rest = [')'] then some [⟨x, true⟩] else none := by
  obtain ⟨htake, -⟩ := Text.takeWhile_append_of_head (a := [' ']) (by decide) ht
  obtain ⟨hafter, -⟩ := Text.takeWhile_append_of_head (a := []) nofun hr
  rw [List.singleton_append] at htake
  rw [List.nil_append] at hafter
  have htight : Text.isInformationSeparator ' ' = false := by decide
  have hdrop : (' ' :: text).drop [' '].length = text := rfl
  rw [readFields?, htake, hdrop, hd]
  simp only [bind, Option.bind, hafter]
  split
  · next h =>
    rw [if_pos (by simpa using h)]
    simp [htight]
  · next h => contradiction
  · next h _ => 
    rw [if_neg fun he => h rfl (by simp [he])]

-- ---------------------------------------------------------------------------
-- Channels
-- ---------------------------------------------------------------------------

def channelField (channel : Nat) : Field := ⟨Decimal.toFloat false ⟨channel, 0⟩, true⟩

theorem channelOf_toFloat :
    ∀ channel < 256, channelOf (Decimal.toFloat false ⟨channel, 0⟩) = .ok channel := by
  decide +kernel

theorem head?_digits_append (n : Nat) (rest : Text) :
    ∀ c, (Integer.digits n ++ rest).head? = some c → Text.isBlank c = false := by
  intro c hc
  rw [List.head?_append_of_ne_nil _ (Integer.digits_ne_nil n)] at hc
  exact Text.isBlank_of_isAsciiDigit
    (Integer.isAsciiDigit_of_mem_digits n c (List.mem_of_head? hc))

theorem readDecimal?_digits (n : Nat) (rest : Text) :
    readDecimal? false (Integer.digits n ++ ',' :: rest) =
      some ((channelField n).value, ',' :: rest) := by
  have hends : EndsDecimal (',' :: rest) := by
    rintro c ⟨⟩
    decide
  have hvalue : Numeral.value ⟨false, Integer.digits n, [], none⟩ = (channelField n).value := by
    simp [Numeral.value, channelField, Integer.digitsValue_digits]
  have hread := readDecimal?_append (Integer.isWhole_digits n) (List.forall_mem_nil _) hends
  rw [hvalue] at hread
  simpa [fractionText] using hread

theorem readFields?_channels (red green blue : Nat) (rest : Text) :
    readFields? true [false, false, false, false]
        (Integer.digits red ++ ", " ++ Integer.digits green ++ ", " ++ Integer.digits blue ++
          ", " ++ rest) =
      (readFields? false [false] (' ' :: rest)).map fun fields =>
        channelField red :: channelField green :: channelField blue :: fields := by
  have hcomma : (", " : Text) = [',', ' '] := rfl
  simp only [hcomma, List.append_assoc, List.cons_append, List.nil_append]
  have hred := readFields?_comma true (.inl rfl) (by simp : [false, false, false] ≠ [])
    (head?_digits_append red _) (readDecimal?_digits red
      (' ' :: (Integer.digits green ++ ',' :: ' ' :: (Integer.digits blue ++ ',' :: ' ' :: rest))))
  have hgreen := readFields?_comma false (.inr rfl) (by simp : [false, false] ≠ [])
    (head?_digits_append green _) (readDecimal?_digits green
      (' ' :: (Integer.digits blue ++ ',' :: ' ' :: rest)))
  have hblue := readFields?_comma false (.inr rfl) (by simp : [false] ≠ [])
    (head?_digits_append blue _) (readDecimal?_digits blue (' ' :: rest))
  simp only [List.nil_append, List.singleton_append] at hred hgreen hblue
  rw [hred, hgreen, hblue, Option.map_map, Option.map_map]
  rfl

-- ---------------------------------------------------------------------------
-- Texts
-- ---------------------------------------------------------------------------

variable {body : Text} {x : Float}

theorem fieldsBehind_rgba (body : Text) :
    fieldsBehind ("rgba(" ++ body) "rgba(" [false, false, false, false] =
      readFields? true [false, false, false, false] body := rfl

theorem readFunction?_rgba (body : Text) :
    readFunction? ("rgba(" ++ body) =
      match fieldsBehind ("rgba(" ++ body) "rgba(" [false, false, false, false] with
      | some [r, g, b, a] => do
        let color ← ofRgb (← r.number) (← g.number) (← b.number) (.float (clampFloat (← a.number)))
        return some color
      | _ => .ok none := by
  have hrgb : fieldsBehind ("rgba(" ++ body) "rgb(" [false, false, false] = none := rfl
  have hhsl : fieldsBehind ("rgba(" ++ body) "hsl(" [false, true, true] = none := rfl
  have hhsla : fieldsBehind ("rgba(" ++ body) "hsla(" [false, true, true, false] = none := rfl
  rw [readFunction?]
  have hfields : (fun (name : String) (percents : List Bool) =>
    if name.toList.isPrefixOf ("rgba(" ++ body) = true then
      readFields? true percents (("rgba(" ++ body).drop name.toList.length)
    else none) = fieldsBehind ("rgba(" ++ body) := rfl
  rw [hfields]
  rcases four_fields ("rgba(" ++ body) "rgba(" false false false false with h | ⟨r, g, b, a, h, -⟩
  · simp only [hrgb, hhsl, hhsla, h]
  · simp only [hrgb, hhsl, hhsla, h]

theorem ofRgb_channels (hr : red ≤ 255) (hg : green ≤ 255) (hb : blue ≤ 255) (alpha : Number) :
    ofRgb (channelField red).value (channelField green).value (channelField blue).value alpha =
      .ok ⟨red, green, blue, alpha⟩ := by
  have hchannel : ∀ channel ≤ 255, channelOf (channelField channel).value = .ok channel :=
    fun channel h => channelOf_toFloat channel (Nat.lt_succ_of_le h)
  simp only [ofRgb, hchannel red hr, hchannel green hg, hchannel blue hb, bind, Except.bind, pure,
    Except.pure]

theorem readFunction?_of_fields (hf : readFields? true [false, false, false, false] body =
      some [channelField red, channelField green, channelField blue, ⟨x, true⟩])
    (hr : red ≤ 255) (hg : green ≤ 255) (hb : blue ≤ 255) :
    readFunction? ("rgba(" ++ body) = .ok (some ⟨red, green, blue, .float (clampFloat x)⟩) := by
  rw [readFunction?_rgba, fieldsBehind_rgba, hf]
  change (ofRgb (channelField red).value (channelField green).value (channelField blue).value
    (.float (clampFloat x)) >>= fun color => pure (some color)) = _
  rw [ofRgb_channels hr hg hb]
  rfl

theorem readFunction?_of_none (hf : readFields? true [false, false, false, false] body = none) :
    readFunction? ("rgba(" ++ body) = .ok none := by
  rw [readFunction?_rgba, fieldsBehind_rgba, hf]

def isNameLetter (c : Char) : Bool := c.isAlpha || c = '_'

theorem names_letters :
    (names.all fun entry => entry.1.toList.all isNameLetter) = true := by decide +kernel

theorem named?_eq_none {text : Text} {c : Char} (h : c ∈ text) (hc : isNameLetter c = false) :
    named? text = none := by
  have hne : ∀ name : Text, name.all isNameLetter = true → text ≠ name := by
    rintro name hn rfl
    exact absurd (hc.symm.trans (List.all_eq_true.mp hn c h)) Bool.false_ne_true
  rw [named?, if_neg (hne _ (by decide)), if_neg (hne _ (by decide)), Option.map_eq_none_iff,
    List.find?_eq_none]
  intro entry he hn
  exact hne _ (List.all_eq_true.mp names_letters entry he) (of_decide_eq_true hn).symm

theorem read?_rgba (body : Text) : read? ("rgba(" ++ body) = readFunction? ("rgba(" ++ body) := by
  have hparen : '(' ∈ ("rgba(" : Text) := by decide
  rw [read?.eq_def, named?_eq_none (List.mem_append_left body hparen) (by decide)]
  rfl

def functional (red green blue : Nat) (alpha : Text) : Text :=
  "rgba(" ++ (Integer.digits red ++ ", " ++ Integer.digits green ++ ", " ++ Integer.digits blue ++
    ", " ++ (alpha ++ ")"))

/-- A text in functional notation is read as a colour if the numeral of its alpha has no
exponent. -/
theorem read?_functional {numeral : Numeral} (hw : IsWhole numeral.whole)
    (hf : ∀ c ∈ numeral.fraction, Text.isAsciiDigit c = true) (hn : numeral.negative = false)
    (hr : red ≤ 255) (hg : green ≤ 255) (hb : blue ≤ 255) :
    read? (functional red green blue numeral.magnitude) =
      .ok (if numeral.exponent = none then
        some ⟨red, green, blue, .float (clampFloat numeral.value)⟩
      else none) := by
  obtain ⟨negative, whole, fraction, exponent⟩ := numeral
  simp only at hw hf hn
  subst hn
  have hhead : ∀ rest : Text, ∀ c, (whole ++ fractionText fraction ++ rest).head? = some c →
      Text.isBlank c = false := by
    intro rest c hc
    rw [List.append_assoc, List.head?_append_of_ne_nil _ hw.ne_nil] at hc
    exact Text.isBlank_of_isAsciiDigit (hw.digit c (List.mem_of_head? hc))
  have hlast : ∀ rest : Text, EndsDecimal rest →
      (∀ c, rest.head? = some c → Text.isBlank c = false) →
      readFields? false [false] (' ' :: (whole ++ fractionText fraction ++ rest)) =
        if rest = [')'] then some [⟨Numeral.value ⟨false, whole, fraction, none⟩, true⟩] else none :=
    fun rest hr hblank => readFields?_last (hhead rest) (readDecimal?_append hw hf hr) hblank
  rw [functional, read?_rgba]
  cases exponent with
  | none =>
    have hmagnitude : Numeral.magnitude ⟨false, whole, fraction, none⟩ ++ ")" =
        whole ++ fractionText fraction ++ [')'] := by
      simp [Numeral.magnitude, exponentText]
    refine readFunction?_of_fields ?_ hr hg hb
    rw [readFields?_channels, hmagnitude, hlast _ (by rintro c ⟨⟩; decide) (by rintro c ⟨⟩; decide),
      if_pos rfl]
    rfl
  | some part =>
    obtain ⟨negative, digits⟩ := part
    have hmagnitude : Numeral.magnitude ⟨false, whole, fraction, some (negative, digits)⟩ ++ ")" =
        whole ++ fractionText fraction ++
          'e' :: (if negative then '-' else '+') :: (digits ++ [')']) := by
      simp [Numeral.magnitude, exponentText]
    refine readFunction?_of_none ?_
    rw [readFields?_channels, hmagnitude, hlast _ (by rintro c ⟨⟩; decide) (by rintro c ⟨⟩; decide),
      if_neg (by simp)]
    rfl

/-- What is asked of a reader of colours: the colours are in range, and in functional notation the
alpha is a numeral without an exponent, which is kept between 0 and 1. -/
structure Grammar (reader : ColorReader) : Prop where
  inRange : ∀ {text color}, reader text = .ok (some color) → ∃ alpha, InRange color alpha
  plain : ∀ {red green blue : Nat} {numeral : Numeral}, red ≤ 255 → green ≤ 255 → blue ≤ 255 →
    IsWhole numeral.whole → (∀ c ∈ numeral.fraction, Text.isAsciiDigit c = true) →
    numeral.negative = false → numeral.exponent = none →
      reader (functional red green blue numeral.magnitude) =
        .ok (some ⟨red, green, blue, .float (clampFloat numeral.value)⟩)
  exponent : ∀ {red green blue : Nat} {numeral : Numeral}, red ≤ 255 → green ≤ 255 → blue ≤ 255 →
    IsWhole numeral.whole → (∀ c ∈ numeral.fraction, Text.isAsciiDigit c = true) →
    numeral.negative = false → numeral.exponent ≠ none →
      reader (functional red green blue numeral.magnitude) = .ok none

theorem grammar_read? : Grammar read? where
  inRange := read?_inRange
  plain := fun hr hg hb hw hf hn he => by rw [read?_functional hw hf hn hr hg hb, if_pos he]
  exponent := fun hr hg hb hw hf hn he => by rw [read?_functional hw hf hn hr hg hb, if_neg he]

end Color

end Retheme
