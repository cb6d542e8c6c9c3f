/-!
# Text

A text is the list of its characters, so every offset and every length counts
characters. The operations here know no character class: cutting at a
pattern, splitting at a separator, joining, and trimming by a predicate.
-/

namespace Retheme

abbrev Text := List Char

instance : Coe String Text := ⟨String.toList⟩

namespace Text

instance decidableForallMem (p : Char → Prop) [DecidablePred p] (text : Text) :
    Decidable (∀ c ∈ text, p c) :=
  List.decidableBAll p text

-- ---------------------------------------------------------------------------
-- Cutting at a pattern
-- ---------------------------------------------------------------------------

def cut? (pattern : Text) : Text → Option (Text × Text)
  | [] => if pattern.isEmpty then some ([], []) else none
  | c :: rest =>
    if pattern.isPrefixOf (c :: rest) then some ([], (c :: rest).drop pattern.length)
    else (cut? pattern rest).map fun (before, after) => (c :: before, after)

theorem eq_of_cut? {pattern text before after : Text}
    (h : cut? pattern text = some (before, after)) : text = before ++ pattern ++ after := by
  induction text generalizing before with
  | nil =>
    simp only [cut?] at h
    split at h
    · next hp =>
      cases h
      simp_all
    · cases h
  | cons c rest ih =>
    simp only [cut?] at h
    split at h
    · next hp =>
      cases h
      obtain ⟨tail, ht⟩ := List.isPrefixOf_iff_prefix.mp hp
      simp [← ht]
    · obtain ⟨⟨b, a⟩, hb, he⟩ := Option.map_eq_some_iff.mp h
      cases he
      simp [ih hb]

theorem length_lt_of_cut? {pattern text before after : Text} (hp : pattern ≠ [])
    (h : cut? pattern text = some (before, after)) : after.length < text.length := by
  have hl := List.length_pos_iff.mpr hp
  rw [eq_of_cut? h]
  simp only [List.length_append]
  omega

def occursIn (pattern text : Text) : Bool := (cut? pattern text).isSome

def replaceFirst (pattern replacement text : Text) : Text :=
  match cut? pattern text with
  | some (before, after) => before ++ replacement ++ after
  | none => text

-- ---------------------------------------------------------------------------
-- Splitting and joining
-- ---------------------------------------------------------------------------

/-- The pieces between the occurrences of a separator; a text without one is a single piece. -/
def split (separator : Char) : Text → List Text
  | [] => [[]]
  | c :: rest =>
    if c = separator then [] :: split separator rest
    else match split separator rest with
      | [] => [[c]]
      | piece :: pieces => (c :: piece) :: pieces

theorem split_ne_nil (separator : Char) (text : Text) : split separator text ≠ [] := by
  cases text with
  | nil => simp [split]
  | cons c rest =>
    simp only [split]
    split
    · simp
    · split <;> simp

def join (separator : Text) : List Text → Text
  | [] => []
  | [piece] => piece
  | piece :: pieces => piece ++ separator ++ join separator pieces

theorem join_split (separator : Char) (text : Text) :
    join [separator] (split separator text) = text := by
  induction text with
  | nil => rfl
  | cons c rest ih =>
    have hn := split_ne_nil separator rest
    simp only [split]
    split
    · next hc =>
      cases hs : split separator rest with
      | nil => exact absurd hs hn
      | cons piece pieces =>
        rw [hs] at ih
        simp [join, ih, hc]
    · split
      · next hs => exact absurd hs hn
      · next piece pieces hs =>
        rw [hs] at ih
        cases pieces with
        | nil => simpa [join] using ih
        | cons next more => simpa [join] using ih

/-- The longest end of a text whose characters all satisfy the predicate is removed. -/
def dropEndWhile (p : Char → Bool) (text : Text) : Text := (text.reverse.dropWhile p).reverse

def takeEndWhile (p : Char → Bool) (text : Text) : Text := (text.reverse.takeWhile p).reverse

def trim (p : Char → Bool) (text : Text) : Text := dropEndWhile p (text.dropWhile p)

theorem dropEndWhile_append_takeEndWhile (p : Char → Bool) (text : Text) :
    dropEndWhile p text ++ takeEndWhile p text = text := by
  simp [dropEndWhile, takeEndWhile, ← List.reverse_append]

-- ---------------------------------------------------------------------------
-- Order
-- ---------------------------------------------------------------------------

/-- Whether one text comes strictly before another in the order of their characters; a proper
beginning comes before the whole. -/
def precedes : Text → Text → Bool
  | [], t => !t.isEmpty
  | _ :: _, [] => false
  | c :: s, d :: t => if c = d then precedes s t else c.toNat < d.toNat

end Text

/-- The piece after the last occurrence of a separator, or the whole text without one. -/
def Text.lastPiece (separator : Char) (text : Text) : Text := text.takeEndWhile (· != separator)

end Retheme
