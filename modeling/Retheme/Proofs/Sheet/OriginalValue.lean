import Retheme.Expression.Arguments
import Retheme.Proofs.Sheet.Comment
import Retheme.Proofs.Sheet.Declaration
import Retheme.Proofs.Text.Blank
import Retheme.Proofs.Text.Nesting

/-!
# The original value of a declaration

The value of a marked declaration is read up to the first semicolon, comment or
closing brace, without the blanks around it and without its flag. It is the
value as it was declared exactly when no semicolon and no opening delimiter of
a comment stands in it, also where quotes or parentheses enclose them.
-/

namespace Retheme.Sheet

variable {source text rest : Text}

-- ---------------------------------------------------------------------------
-- Where a value is cut
-- ---------------------------------------------------------------------------

theorem valueText_append (hs : text.getLast? = some '/' → rest.head? ≠ some '*') :
    valueText (text ++ rest) =
      if valueText text = text then text ++ valueText rest else valueText text := by
  induction text with
  | nil => simp [valueText]
  | cons c text ih =>
    have hseam : c = '/' ∧ (text ++ rest).head? = some '*' ↔ c = '/' ∧ text.head? = some '*' := by
      cases text with
      | nil => simpa using hs
      | cons => simp
    have ih := ih fun hl => hs (by
      rw [List.getLast?_cons, hl]
      rfl)
    have hlong : c = ';' ∨ c = '}' ∨ (c = '/' ∧ (text ++ rest).head? = some '*') ↔
        c = ';' ∨ c = '}' ∨ (c = '/' ∧ text.head? = some '*') := by
      rw [hseam]
    simp only [List.cons_append, valueText, Bool.or_eq_true, Bool.and_eq_true, decide_eq_true_eq,
      or_assoc, hlong]
    split
    · simp
    · simp [ih]
      split <;> rfl

theorem valueText_eq_self_iff :
    valueText text = text ↔ ';' ∉ text ∧ '}' ∉ text ∧ ¬ commentOpen <:+: text := by
  induction text with
  | nil => simp [valueText, commentOpen]
  | cons c text ih =>
    have hopen : commentOpen <+: c :: text ↔ c = '/' ∧ text.head? = some '*' := by
      cases text <;> simp [commentOpen, eq_comm]
    simp only [valueText, Bool.or_eq_true, Bool.and_eq_true, decide_eq_true_eq,
      List.infix_cons_iff, hopen, List.mem_cons, not_or]
    split
    · next hc =>
      rcases hc with (rfl | rfl) | hc
      · simp
      · simp
      · simp [hc]
    · next hc =>
      simp only [not_or] at hc
      obtain ⟨⟨hsemi, hbrace⟩, hcomment⟩ := hc
      simp [ih, hcomment, Ne.symm hsemi, Ne.symm hbrace]

theorem prefix_valueText (text : Text) : valueText text <+: text := by
  induction text with
  | nil => exact List.prefix_rfl
  | cons c text ih =>
    rw [valueText]
    split
    · exact List.nil_prefix
    · exact List.cons_prefix_cons.mpr ⟨rfl, ih⟩

theorem length_valueText_lt (h : valueText text ≠ text) : (valueText text).length < text.length :=
  Nat.lt_of_le_of_ne (prefix_valueText text).length_le fun hl =>
    h ((prefix_valueText text).eq_of_length hl)

theorem valueText_takeWhile (text : Text) : valueText (text.takeWhile (· != '}')) = valueText text := by
  induction text with
  | nil => rfl
  | cons c text ih =>
    by_cases hc : c = '}'
    · simp [hc, valueText]
    · have hh : (text.takeWhile (· != '}')).head? = some '*' ↔ text.head? = some '*' := by
        cases text with
        | nil => rfl
        | cons d text =>
          by_cases hd : d = '}'
          · simp [hd]
          · simp [hd]
      simp [hc, valueText, ih, hh]

theorem MarkedProperty.declaredValue?_eq (marked : MarkedProperty source) :
    declaredValue? source marked.marker.start =
      some (dropImportant (Text.strip (valueText marked.after))) := by
  have hp : ∀ c ∈ marked.prop, (c != '}') = true := fun c hc => by
    simpa using (marked.prop_chars c hc).2.1
  have hd : (marked.prop ++ ':' :: marked.after).takeWhile (· != '}') =
      marked.prop ++ ':' :: marked.after.takeWhile (· != '}') := by
    rw [List.takeWhile_append_of_pos hp, List.takeWhile_cons_of_pos (by decide)]
  have hc := Text.cut?_of_not_mem marked.not_mem_prop [] (marked.after.takeWhile (· != '}'))
  rw [List.append_assoc, List.singleton_append] at hc
  simp only [declaredValue?, marked.afterMarker?_eq, hd, hc, Option.map_some, valueText_takeWhile]

-- ---------------------------------------------------------------------------
-- Values without their flag
-- ---------------------------------------------------------------------------

theorem length_dropImportant_le (text : Text) : (dropImportant text).length ≤ text.length := by
  rw [dropImportant]
  split
  · have hl := (List.dropWhile_suffix Text.isBlank
      (l := (text.take (text.length - importantFlag.length)).reverse)).length_le
    simp only [Text.stripEnd, Text.dropEndWhile, List.length_reverse, List.length_take] at hl ⊢
    omega
  · exact Nat.le_refl _

theorem dropImportant_append (front : Text) :
    dropImportant (front ++ importantFlag) = Text.stripEnd front := by
  have hs : importantFlag.isSuffixOf (front ++ importantFlag) = true :=
    List.isSuffixOf_iff_suffix.mpr (List.suffix_append _ _)
  rw [dropImportant, if_pos hs, List.length_append, Nat.add_sub_cancel, List.take_left]

theorem dropImportant_eq_self (h : ¬ importantFlag <:+ text) : dropImportant text = text := by
  rw [dropImportant, if_neg]
  exact fun hs => h (List.isSuffixOf_iff_suffix.mp hs)

-- ---------------------------------------------------------------------------
-- Declarations
-- ---------------------------------------------------------------------------

structure IsTrimmed (text : Text) : Prop where
  head : ∃ c, text.head? = some c ∧ Text.isBlank c = false
  last : ∃ c, text.getLast? = some c ∧ Text.isBlank c = false

structure ValuedDeclaration (source : Text) extends MarkedProperty source where
  gap : Text
  value : Text
  flag : Text
  rest : Text
  after_eq : after = gap ++ (value ++ (flag ++ ';' :: rest))
  gap_blank : ∀ c ∈ gap, Text.isBlank c = true
  value_trimmed : IsTrimmed value
  value_brace : '}' ∉ value
  value_flag : ¬ importantFlag <:+ value
  flag_eq : flag = [] ∨
    ∃ blanks, (∀ c ∈ blanks, Text.isBlank c = true) ∧ flag = blanks ++ importantFlag

/-- No semicolon and no opening delimiter of a comment stands in a value. -/
def IsReadWhole (value : Text) : Prop := ';' ∉ value ∧ ¬ commentOpen <:+: value

namespace ValuedDeclaration

variable (declaration : ValuedDeclaration source)

theorem valueText_gap (text : Text) :
    valueText (declaration.gap ++ text) = declaration.gap ++ valueText text := by
  have hne (d : Char) (hd : Text.isBlank d = false) : d ∉ declaration.gap := by
    intro hm
    rw [declaration.gap_blank d hm] at hd
    cases hd
  have hself : valueText declaration.gap = declaration.gap :=
    valueText_eq_self_iff.mpr ⟨hne _ (by decide), hne _ (by decide),
      fun hi => hne '/' (by decide) (hi.subset (by decide))⟩
  have hslash : declaration.gap.getLast? ≠ some '/' :=
    fun hl => hne '/' (by decide) (List.mem_of_getLast? hl)
  rw [valueText_append fun hl => absurd hl hslash, if_pos hself]

theorem not_mem_flag {d : Char} (hb : Text.isBlank d = false) (hd : d ∉ importantFlag) :
    d ∉ declaration.flag := by
  intro hm
  rcases declaration.flag_eq with he | ⟨blanks, hblank, he⟩
  · simp [he] at hm
  · rw [he] at hm
    rcases List.mem_append.mp hm with hm | hm
    · rw [hblank d hm] at hb
      cases hb
    · exact hd hm

theorem valueText_flag :
    valueText (declaration.flag ++ ';' :: declaration.rest) = declaration.flag := by
  have hself : valueText declaration.flag = declaration.flag :=
    valueText_eq_self_iff.mpr ⟨declaration.not_mem_flag (by decide) (by decide),
      declaration.not_mem_flag (by decide) (by decide), fun hi =>
        declaration.not_mem_flag (d := '/') (by decide) (by decide) (hi.subset (by decide))⟩
  rw [valueText_append (by simp), if_pos hself]
  simp [valueText]

theorem head?_flag : (declaration.flag ++ ';' :: declaration.rest).head? ≠ some '*' := by
  intro hh
  have hn : '*' ∉ declaration.flag := declaration.not_mem_flag (by decide) (by decide)
  cases hf : declaration.flag with
  | nil => simp [hf] at hh
  | cons c flag =>
    rw [hf] at hn hh
    obtain rfl : c = '*' := Option.some.inj hh
    exact hn List.mem_cons_self

theorem dropImportant_strip :
    dropImportant (Text.strip (declaration.gap ++ (declaration.value ++ declaration.flag))) =
      declaration.value := by
  obtain ⟨c, hc, hcb⟩ := declaration.value_trimmed.head
  obtain ⟨d, hd, hdb⟩ := declaration.value_trimmed.last
  rw [Text.strip, Text.trim_append_left declaration.gap_blank]
  rcases declaration.flag_eq with he | ⟨blanks, hblank, he⟩
  · have ht : Text.trim Text.isBlank declaration.value = declaration.value :=
      Text.trim_eq_self (by simp [hc, hcb]) (by simp [hd, hdb])
    rw [he, List.append_nil, ht, dropImportant_eq_self declaration.value_flag]
  · have hlast : (blanks ++ importantFlag).getLast? = some 't' := by
      rw [List.getLast?_append]
      rfl
    have ht : Text.trim Text.isBlank (declaration.value ++ (blanks ++ importantFlag)) =
        declaration.value ++ (blanks ++ importantFlag) := by
      refine Text.trim_eq_self ?_ ?_
      · simp [List.head?_append, hc, hcb]
      · rw [List.getLast?_append, hlast]
        rintro e ⟨rfl⟩
        decide
    have hend : Text.dropEndWhile Text.isBlank declaration.value = declaration.value := by
      obtain ⟨front, hfront⟩ := List.getLast?_eq_some_iff.mp hd
      rw [hfront, Text.dropEndWhile_snoc_of_neg front hdb]
    rw [he, ht, ← List.append_assoc, dropImportant_append, Text.stripEnd,
      Text.dropEndWhile_append _ hblank, hend]

/-- The value is read as it was declared exactly when nothing in it ends it before. -/
theorem declaredValue?_eq_iff :
    declaredValue? source declaration.marker.start = some declaration.value ↔
      IsReadWhole declaration.value := by
  have hiff : valueText declaration.value = declaration.value ↔ IsReadWhole declaration.value := by
    simp [valueText_eq_self_iff, IsReadWhole, declaration.value_brace]
  rw [declaration.declaredValue?_eq, declaration.after_eq, declaration.valueText_gap,
    valueText_append fun _ => declaration.head?_flag, declaration.valueText_flag, ← hiff,
    Option.some.injEq]
  by_cases h : valueText declaration.value = declaration.value
  · rw [if_pos h]
    exact iff_of_true declaration.dropImportant_strip h
  · rw [if_neg h]
    refine iff_of_false (fun he => ?_) h
    -- What is left of the value is shorter, and trimming does not make it longer.
    have hl := length_valueText_lt h
    have hstrip : Text.strip (declaration.gap ++ valueText declaration.value) =
        Text.strip (valueText declaration.value) := Text.trim_append_left declaration.gap_blank _
    have hs := Expression.length_strip_le (valueText declaration.value)
    have hd := length_dropImportant_le (Text.strip (valueText declaration.value))
    rw [hstrip] at he
    rw [he] at hd
    omega

end ValuedDeclaration

/-- Parentheses and quotes are balanced, and every semicolon stands in some. -/
def IsSheltered (value : Text) : Prop :=
  Nesting.passes? .round (some ';') .top value = some .top

def imageSheet : Text := ".a \x7b /*![demo.x]*/ background: url(data:image/png;base64,AA); \x7d"

def imageDeclaration : ValuedDeclaration imageSheet where
  marker := ⟨"demo.x", 5, 18⟩
  prop := " background"
  after := " url(data:image/png;base64,AA); \x7d"
  gap := " "
  value := "url(data:image/png;base64,AA)"
  flag := []
  rest := " \x7d"
  found := by decide +kernel
  behind := by decide
  not_mem_prop := by decide
  prop_chars := by decide
  prop_visible := by decide
  after_eq := by decide
  gap_blank := Text.isBlank_of_mem_space
  value_trimmed := ⟨⟨'u', rfl, by decide⟩, ⟨')', rfl, by decide⟩⟩
  value_brace := by decide
  value_flag := by decide
  flag_eq := .inl rfl

/-- A semicolon ends the value inside of parentheses, too. -/
theorem not_declaredValue?_sheltered :
    ¬ ∀ (source : Text) (declaration : ValuedDeclaration source), IsSheltered declaration.value →
      ¬ commentOpen <:+: declaration.value →
        declaredValue? source declaration.marker.start = some declaration.value := by
  intro h
  have hs : IsSheltered imageDeclaration.value := by
    rw [IsSheltered]
    decide
  exact absurd (h imageSheet imageDeclaration hs (by decide)) (by decide +kernel)

end Retheme.Sheet
