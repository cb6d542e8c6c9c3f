import Retheme.Proofs.Sheet.OriginalValue

/-!
# The declaration of a marker

The property of a marker and the original value of its declaration are looked
for one after the other, from the end of the marker on. Whenever a property is
found there is a value, and both belong to one declaration: the property stands
in front of the first colon, the value behind it, up to the earliest semicolon,
comment or closing brace.
-/

namespace Retheme.Sheet

variable {source text : Text} {marker : Marker}

-- ---------------------------------------------------------------------------
-- Where a value ends
-- ---------------------------------------------------------------------------

def EndsValue (text : Text) : Prop := [';'] <+: text ∨ commentOpen <+: text ∨ ['}'] <+: text

theorem endsValue_cons (c : Char) (rest : Text) :
    EndsValue (c :: rest) ↔ c = ';' ∨ c = '}' ∨ (c = '/' ∧ rest.head? = some '*') := by
  have hopen : commentOpen <+: c :: rest ↔ c = '/' ∧ rest.head? = some '*' := by
    cases rest <;> simp [commentOpen, eq_comm]
  simp only [EndsValue, hopen, List.cons_prefix_cons, List.nil_prefix, and_true, eq_comm (b := c)]
  exact or_congr_right or_comm

structure IsUpToEnd (text declared : Text) : Prop where
  begins : declared <+: text
  ends : text.drop declared.length = [] ∨ EndsValue (text.drop declared.length)
  earliest : ∀ position < declared.length, ¬ EndsValue (text.drop position)

theorem isUpToEnd_valueText (text : Text) : IsUpToEnd text (valueText text) := by
  refine ⟨prefix_valueText text, ?_, ?_⟩
  · induction text with
    | nil => exact .inl rfl
    | cons c rest ih =>
      rw [valueText]
      split
      · next h => exact .inr ((endsValue_cons c rest).mpr (by simpa [or_assoc] using h))
      · rw [List.length_cons, List.drop_succ_cons]
        exact ih
  · induction text with
    | nil =>
      intro position hp
      cases hp
    | cons c rest ih =>
      rw [valueText]
      split
      · intro position hp
        cases hp
      · next h =>
        intro position hp
        cases position with
        | zero => exact fun he => h (by simpa [or_assoc] using (endsValue_cons c rest).mp he)
        | succ position => exact ih position (Nat.lt_of_succ_lt_succ hp)

-- ---------------------------------------------------------------------------
-- Values without their flag
-- ---------------------------------------------------------------------------

/-- A text without one flag at its end and the blanks in front of it, or a text without a flag. -/
def IsUnflagged (text value : Text) : Prop :=
  (∃ front, text = front ++ importantFlag ∧ value = Text.stripEnd front) ∨
    ¬ importantFlag <:+ text ∧ value = text

theorem isUnflagged_dropImportant (text : Text) : IsUnflagged text (dropImportant text) := by
  by_cases h : importantFlag <:+ text
  · obtain ⟨front, rfl⟩ := h
    exact .inl ⟨front, rfl, dropImportant_append front⟩
  · exact .inr ⟨h, dropImportant_eq_self h⟩

-- ---------------------------------------------------------------------------
-- One declaration
-- ---------------------------------------------------------------------------

structure DescribesOne (source : Text) (marker : Marker) : Prop where
  /-- The context and the value are read behind the closing delimiter that ends the marker. -/
  behind : afterMarker? source marker.start = some (marker.stop, source.drop marker.stop)
  /-- The rule is the one there; property and value stand on both sides of the first colon. -/
  declared : (contextAt source marker.start).prop ≠ [] →
    ∃ marked : MarkedProperty source, marked.marker = marker ∧
      (contextAt source marker.start).prop = Text.removeBlanks marked.prop ∧
      (contextAt source marker.start).rule = ruleNameAt source marker.stop ∧
      ∃ declared value, IsUpToEnd marked.after declared ∧
        IsUnflagged (Text.strip declared) value ∧
        declaredValue? source marker.start = some value

/-- The context and the value of a marker describe the same declaration. -/
theorem describesOne (hm : marker ∈ markers source) : DescribesOne source marker := by
  refine ⟨afterMarker?_start hm, fun hp => ?_⟩
  obtain ⟨marked, rfl⟩ := exists_markedProperty_of_prop hm hp
  refine ⟨marked, rfl, ?_, ?_, valueText marked.after, _, isUpToEnd_valueText marked.after,
    isUnflagged_dropImportant _, marked.declaredValue?_eq⟩
  · rw [marked.contextAt_eq]
  · rw [marked.contextAt_eq]

def flaggedSheet : Text := ".a \x7b /*![demo.x]*/ color : red !important /* b: c; */; \x7d"

/-- A comment ends the value behind its flag, and blanks around the colon are passed over. -/
theorem describesOne_flagged :
    ⟨"demo.x", 5, 18⟩ ∈ markers flaggedSheet ∧
      contextAt flaggedSheet 5 = ⟨"color", ".a", true⟩ ∧ declaredValue? flaggedSheet 5 = some "red" ∧
      DescribesOne flaggedSheet ⟨"demo.x", 5, 18⟩ := by
  have hm : ⟨"demo.x", 5, 18⟩ ∈ markers flaggedSheet := by decide +kernel
  exact ⟨hm, by decide +kernel, by decide +kernel, describesOne hm⟩

end Retheme.Sheet
