import Mathlib.Data.List.TakeWhile
import Mathlib.Data.List.Infix
import Retheme.Json.Reader

/-!
# What a reader of JSON leaves behind

What follows a value that was read is the end of the text. So an integer that
is refused for its length stands in the text itself, as a run of digits longer
than a numeral may be, and a text without such a run is never refused for one.
-/

namespace Retheme.Json

variable {α β : Type} {text inner rest : Text} {result : Except Fault (α × Text)}
  (half : Nat → Char)

def HoldsLongRun (text : Text) : Prop :=
  ∃ digits, digits <:+: text ∧ (∀ c ∈ digits, Text.isAsciiDigit c = true) ∧
    Integer.digitLimit < digits.length

theorem HoldsLongRun.mono (h : HoldsLongRun inner) (hs : inner <:+ text) : HoldsLongRun text := by
  obtain ⟨digits, hi, hd, hl⟩ := h
  exact ⟨digits, hi.trans hs.isInfix, hd, hl⟩

/-- What a reader gives for a text: an end of the text is left, and a numeral that is too long is in
the text. -/
structure Consumes (text : Text) (result : Except Fault (α × Text)) : Prop where
  suffix : ∀ value rest, result = .ok (value, rest) → rest <:+ text
  long : result = .error .tooManyDigits → HoldsLongRun text

namespace Consumes

theorem ok (value : α) (h : rest <:+ text) : Consumes text (.ok (value, rest)) :=
  ⟨by rintro _ _ ⟨⟩; exact h, by rintro ⟨⟩⟩

theorem malformed (text : Text) : Consumes text (.error .malformed : Except Fault (α × Text)) :=
  ⟨by rintro _ _ ⟨⟩, by rintro ⟨⟩⟩

theorem mono (h : Consumes inner result) (hs : inner <:+ text) : Consumes text result :=
  ⟨fun value rest hr => (h.suffix value rest hr).trans hs, fun hr => (h.long hr).mono hs⟩

theorem bind {next : α × Text → Except Fault (β × Text)} (h : Consumes text result)
    (hn : ∀ value rest, rest <:+ text → Consumes text (next (value, rest))) :
    Consumes text (result >>= next) := by
  cases hr : result with
  | error fault =>
    refine ⟨by rintro _ _ ⟨⟩, fun he => h.long ?_⟩
    cases he
    exact hr
  | ok found => exact hn found.1 found.2 (h.suffix _ _ hr)

theorem map (h : Consumes text result) (f : α → β) :
    Consumes text (result.map fun (value, rest) => (f value, rest)) := by
  cases hr : result with
  | error fault =>
    refine ⟨by rintro _ _ ⟨⟩, fun he => h.long ?_⟩
    cases he
    exact hr
  | ok found => exact .ok _ (h.suffix _ _ hr)

end Consumes

-- ---------------------------------------------------------------------------
-- Strings
-- ---------------------------------------------------------------------------

theorem consumes_readUnits (units : List Nat) (state : StringState) (text : Text) :
    Consumes text (readUnits units state text) := by
  induction text generalizing units state with
  | nil =>
    rw [readUnits.eq_def]
    exact .malformed []
  | cons c rest ih =>
    have hs := List.suffix_cons c rest
    have hgo (units : List Nat) (state : StringState) :
        Consumes (c :: rest) (readUnits units state rest) := (ih units state).mono hs
    rw [readUnits.eq_def]
    cases state with
    | plain =>
      dsimp only
      split
      · exact .ok _ hs
      split
      · exact hgo _ _
      split
      · exact .malformed _
      · exact hgo _ _
    | escape =>
      dsimp only
      split
      · exact hgo _ _
      split
      · exact hgo _ _
      · exact .malformed _
    | «unicode» left value =>
      dsimp only
      split
      · exact .malformed _
      split
      · exact hgo _ _
      · exact hgo _ _

theorem consumes_readString (text : Text) : Consumes text (readString half text) :=
  (consumes_readUnits [] .plain text).map _

-- ---------------------------------------------------------------------------
-- Numbers and words
-- ---------------------------------------------------------------------------

theorem readWhole?_spec {whole : Text} (h : readWhole? text = some (whole, rest)) :
    text = whole ++ rest ∧ ∀ c ∈ whole, Text.isAsciiDigit c = true := by
  rw [readWhole?.eq_def] at h
  split at h
  · cases h
    exact ⟨rfl, by simp [Text.isAsciiDigit]⟩
  · dsimp only at h
    split at h
    · cases h
    · cases h
      exact ⟨List.takeWhile_append_dropWhile.symm, fun c hc => List.mem_takeWhile_imp hc⟩

theorem suffix_readFraction (text : Text) : (readFraction text).2 <:+ text := by
  rw [readFraction.eq_def]
  split
  · dsimp only
    split
    · exact List.suffix_rfl
    · exact (List.dropWhile_suffix _).trans (List.suffix_cons _ _)
  · exact List.suffix_rfl

theorem suffix_readSign (text : Text) : (Decimal.readSign text).2 <:+ text := by
  rw [Decimal.readSign.eq_def]
  split
  · exact List.suffix_cons _ _
  · exact List.suffix_cons _ _
  · exact List.suffix_rfl

theorem suffix_readExponent (digit : Char → Bool) (text : Text) :
    (Decimal.readExponent digit text).2 <:+ text := by
  rw [Decimal.readExponent.eq_def]
  split
  · next c rest =>
    split
    · dsimp only
      split
      · exact List.suffix_rfl
      · exact ((List.dropWhile_suffix _).trans (suffix_readSign rest)).trans (List.suffix_cons _ _)
    · exact List.suffix_rfl
  · exact List.suffix_rfl

theorem consumes_readNumber (negative : Bool) (text : Text) :
    Consumes text (readNumber negative text) := by
  rw [readNumber.eq_def]
  split
  · exact .malformed text
  · next whole rest hw =>
    obtain ⟨rfl, hdigits⟩ := readWhole?_spec hw
    have hrest : (Decimal.readExponent Text.isAsciiDigit (readFraction rest).2).2 <:+ whole ++ rest :=
      ((suffix_readExponent _ _).trans (suffix_readFraction rest)).trans (List.suffix_append _ _)
    dsimp only
    split
    · split
      · next hl =>
        refine ⟨by rintro _ _ ⟨⟩, fun _ => ⟨whole, ?_, hdigits, hl⟩⟩
        exact (List.prefix_append whole rest).isInfix
      · exact .ok _ hrest
    · exact .ok _ hrest

theorem suffix_readWord {value : Value} (h : readWord text = some (value, rest)) :
    rest <:+ text := by
  rw [readWord] at h
  obtain ⟨⟨word, found⟩, -, hw⟩ := List.exists_of_findSome?_eq_some h
  dsimp only at hw
  split at hw
  · cases hw
    exact List.drop_suffix _ _
  · cases hw

-- ---------------------------------------------------------------------------
-- Values
-- ---------------------------------------------------------------------------

mutual
theorem consumes_readValue (depth : Nat) (text : Text) :
    Consumes text (readValue half depth text) := by
  rw [readValue.eq_def]
  split
  · exact .malformed _
  · next rest _ =>
    exact ((consumes_readString half rest).map Value.text).mono (List.suffix_cons _ _)
  · next depth rest =>
    have hs : rest.dropWhile isBlank <:+ '[' :: rest :=
      (List.dropWhile_suffix _).trans (List.suffix_cons _ _)
    split
    · next hd =>
      rw [hd] at hs
      exact .ok _ ((List.suffix_cons _ _).trans hs)
    · exact ((consumes_readItems depth _).map Value.list).mono hs
  · next depth rest =>
    have hs : rest.dropWhile isBlank <:+ '{' :: rest :=
      (List.dropWhile_suffix _).trans (List.suffix_cons _ _)
    split
    · next hd =>
      rw [hd] at hs
      exact .ok _ ((List.suffix_cons _ _).trans hs)
    · exact ((consumes_readFields depth _).map fun fields => Value.map (Entries.ofPairs fields)).mono hs
  · split
    · next hw => exact .ok _ (suffix_readWord hw)
    · exact (consumes_readNumber true _).mono (List.suffix_cons _ _)
    · exact consumes_readNumber false _

theorem consumes_readItems (depth : Nat) (text : Text) :
    Consumes text (readItems half depth text) := by
  rw [readItems.eq_def]
  split
  · exact .malformed _
  · next depth =>
    refine (consumes_readValue depth text).bind fun item rest hr => ?_
    have hs : rest.dropWhile isBlank <:+ text := (List.dropWhile_suffix _).trans hr
    dsimp only
    split
    · next hd =>
      rw [hd] at hs
      exact .ok _ ((List.suffix_cons _ _).trans hs)
    · next more hd =>
      rw [hd] at hs
      refine Consumes.bind ((consumes_readItems depth _).mono ?_) fun items last hl => .ok _ hl
      exact ((List.dropWhile_suffix _).trans (List.suffix_cons _ _)).trans hs
    · exact .malformed _

theorem consumes_readFields (depth : Nat) (text : Text) :
    Consumes text (readFields half depth text) := by
  rw [readFields.eq_def]
  split
  · exact .malformed _
  · next depth =>
    split
    · next rest =>
      refine ((consumes_readString half rest).mono (List.suffix_cons _ _)).bind fun key rest hr => ?_
      have hs : rest.dropWhile isBlank <:+ '"' :: _ := (List.dropWhile_suffix _).trans hr
      dsimp only
      split
      · next more hd =>
        rw [hd] at hs
        have hm : more.dropWhile isBlank <:+ '"' :: _ :=
          ((List.dropWhile_suffix _).trans (List.suffix_cons _ _)).trans hs
        refine Consumes.bind ((consumes_readValue depth _).mono hm) fun item rest hr => ?_
        have hs : rest.dropWhile isBlank <:+ '"' :: _ := (List.dropWhile_suffix _).trans hr
        dsimp only
        split
        · next hd =>
          rw [hd] at hs
          exact .ok _ ((List.suffix_cons _ _).trans hs)
        · next last hd =>
          rw [hd] at hs
          refine Consumes.bind ((consumes_readFields depth _).mono ?_) fun fields last hl => .ok _ hl
          exact ((List.dropWhile_suffix _).trans (List.suffix_cons _ _)).trans hs
        · exact .malformed _
      · exact .malformed _
    · exact .malformed _
end

/-- A text is refused for the length of an integer only when it holds that many digits in a row. -/
theorem holdsLongRun_of_readWith (h : readWith half text = .error .tooManyDigits) :
    HoldsLongRun text := by
  have hs : text.dropWhile isBlank <:+ text := List.dropWhile_suffix _
  have hc := (consumes_readValue half (2 * text.length + 2) (text.dropWhile isBlank)).mono hs
  refine hc.long ?_
  rw [readWith] at h
  cases hv : readValue half (2 * text.length + 2) (text.dropWhile isBlank) with
  | error fault =>
    rw [hv] at h
    cases h
    rfl
  | ok found =>
    simp only [hv, bind, Except.bind] at h
    split at h <;> cases h

end Retheme.Json
