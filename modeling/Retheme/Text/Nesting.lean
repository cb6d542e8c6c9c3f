import Retheme.Text.Basic

/-!
# Nesting in brackets and quotes

A reader that goes through a text knows how many brackets are open and which
quote it is inside of. Brackets of different shapes are not told apart, and a
bracket inside quotes does not count. A text is split at the separators that
lie outside all brackets and quotes.
-/

namespace Retheme

-- ---------------------------------------------------------------------------
-- Brackets
-- ---------------------------------------------------------------------------

structure Brackets where
  opens : Char → Bool
  closes : Char → Bool

namespace Brackets

def round : Brackets := ⟨fun c => c = '(', fun c => c = ')'⟩

def roundSquare : Brackets := ⟨fun c => c = '(' || c = '[', fun c => c = ')' || c = ']'⟩

def all : Brackets :=
  ⟨fun c => c = '(' || c = '[' || c = '{', fun c => c = ')' || c = ']' || c = '}'⟩

end Brackets

-- ---------------------------------------------------------------------------
-- Where a reader stands
-- ---------------------------------------------------------------------------

structure Nesting where
  depth : Nat
  quote : Option Char
  deriving DecidableEq, Repr

namespace Nesting

def top : Nesting := ⟨0, none⟩

def isQuote (c : Char) : Bool := c = '\'' || c = '"'

/-- Where the reader stands after one more character. A closing bracket without an open one
changes nothing. -/
def after (brackets : Brackets) (nesting : Nesting) (c : Char) : Nesting :=
  match nesting.quote with
  | some quote => if c = quote then { nesting with quote := none } else nesting
  | none =>
    if isQuote c then { nesting with quote := some c }
    else if brackets.opens c then { nesting with depth := nesting.depth + 1 }
    else if brackets.closes c then { nesting with depth := nesting.depth - 1 }
    else nesting

def unopened (brackets : Brackets) (nesting : Nesting) (c : Char) : Bool :=
  nesting = top && !isQuote c && !brackets.opens c && brackets.closes c

def firstUnopened? (brackets : Brackets) (nesting : Nesting) : Text → Option Char
  | [] => none
  | c :: rest =>
    if nesting.unopened brackets c then some c
    else firstUnopened? brackets (nesting.after brackets c) rest

/-- The text up to the bracket that closes what was open at the start, and the text after it. -/
def inside? (brackets : Brackets) (nesting : Nesting) : Text → Option (Text × Text)
  | [] => none
  | c :: rest =>
    if nesting.unopened brackets c then some ([], rest)
    else (inside? brackets (nesting.after brackets c) rest).map fun (inner, outer) =>
      (c :: inner, outer)

def separates (brackets : Brackets) (separator : Char) (nesting : Nesting) (c : Char) : Bool :=
  c = separator && nesting = top && !isQuote c && !brackets.opens c && !brackets.closes c

def split (brackets : Brackets) (separator : Char) (nesting : Nesting) : Text → List Text
  | [] => [[]]
  | c :: rest =>
    let pieces := split brackets separator (nesting.after brackets c) rest
    if nesting.separates brackets separator c then [] :: pieces
    else match pieces with
      | [] => [[c]]
      | piece :: pieces => (c :: piece) :: pieces

theorem split_ne_nil (brackets : Brackets) (separator : Char) (nesting : Nesting) (text : Text) :
    split brackets separator nesting text ≠ [] := by
  cases text with
  | nil => simp [split]
  | cons c rest =>
    simp only [split]
    split
    · simp
    · split <;> simp

theorem length_le_of_mem_split {brackets : Brackets} {separator : Char} {nesting : Nesting}
    {text piece : Text} (h : piece ∈ split brackets separator nesting text) :
    piece.length ≤ text.length := by
  induction text generalizing nesting piece with
  | nil =>
    simp only [split, List.mem_singleton] at h
    simp [h]
  | cons c rest ih =>
    simp only [split] at h
    split at h
    · rcases List.mem_cons.mp h with rfl | h
      · simp
      · exact Nat.le_succ_of_le (ih h)
    · split at h
      · next hs => exact absurd hs (split_ne_nil _ _ _ _)
      · next first more hs =>
        rcases List.mem_cons.mp h with rfl | h
        · have := @ih (nesting.after brackets c) first (by simp [hs])
          simpa using this
        · exact Nat.le_succ_of_le (@ih (nesting.after brackets c) piece (by simp [hs, h]))

theorem length_lt_of_inside? {brackets : Brackets} {nesting : Nesting} {text inner outer : Text}
    (h : inside? brackets nesting text = some (inner, outer)) :
    inner.length < text.length := by
  induction text generalizing nesting inner with
  | nil => simp [inside?] at h
  | cons c rest ih =>
    simp only [inside?] at h
    split at h
    · cases h
      simp
    · obtain ⟨⟨i, o⟩, hi, he⟩ := Option.map_eq_some_iff.mp h
      cases he
      simpa using ih hi

end Nesting

namespace Text

/-- The pieces of a text between the separators outside round and square brackets and quotes. -/
def splitTop (separator : Char) (text : Text) : List Text :=
  Nesting.top.split .roundSquare separator text

/-- The pieces of a text between the occurrences of a separator at the top. Only a separator of one
character occurs. -/
def splitTopAt (separator text : Text) : List Text :=
  match separator with
  | [separator] => splitTop separator text
  | _ => [text]

end Text

end Retheme
