import Retheme.Proofs.Sheet.Comment
import Retheme.Proofs.Text.Ends
import Retheme.Sheet.Rule

/-!
# What stands in front of a brace

The name found at an offset depends on the blanked text in front of it alone,
and there on what stands in front of its last opening brace. A block takes the
name of the at-rule around it only when no other block was closed since the
at sign; behind a closed block, and at the start, it takes its own.
-/

namespace Retheme.Sheet

variable {a b front head inner text : Text}

-- ---------------------------------------------------------------------------
-- The last opening brace
-- ---------------------------------------------------------------------------

theorem beforeBrace?_append (a : Text) (h : '{' ∉ b) :
    beforeBrace? (a ++ b) = beforeBrace? a := by
  have hb : ∀ c ∈ b, (c != '{') = true := fun c hc => bne_iff_ne.mpr fun he => h (he ▸ hc)
  simp [beforeBrace?, Text.dropEndWhile_append a hb, h]

theorem beforeBrace?_snoc (a : Text) : beforeBrace? (a ++ ['{']) = some a := by
  simp [beforeBrace?, Text.dropEndWhile_snoc_of_neg]

theorem beforeBrace?_eq_some (h : beforeBrace? text = some front) :
    ∃ back, text = front ++ '{' :: back := by
  have hm : '{' ∈ text := by
    by_contra hn
    simp [beforeBrace?, hn] at h
  obtain ⟨head, back, rfl, hb⟩ := Text.exists_last hm
  rw [List.append_cons, beforeBrace?_append _ hb, beforeBrace?_snoc] at h
  cases h
  exact ⟨back, rfl⟩

def nameBehind (text : Text) : Text :=
  match beforeBrace? text with
  | none => []
  | some text => canonicalName (if insideAtRule text then fromAt text else afterRule text)

theorem ruleNameAt_eq (source : Text) (position : Nat) :
    ruleNameAt source position = nameBehind ((blankComments source).take position) := rfl

/-- As long as no other block opens the name stays the same, also behind closing braces. -/
theorem nameBehind_append (a : Text) (h : '{' ∉ b) : nameBehind (a ++ b) = nameBehind a := by
  rw [nameBehind, beforeBrace?_append a h, nameBehind]

theorem nameBehind_snoc (a : Text) :
    nameBehind (a ++ ['{']) = canonicalName (if insideAtRule a then fromAt a else afterRule a) := by
  rw [nameBehind, beforeBrace?_snoc]

-- ---------------------------------------------------------------------------
-- At-rules
-- ---------------------------------------------------------------------------

theorem insideAtRule_iff :
    insideAtRule text = true ↔
      ∃ before after, text = before ++ '@' :: after ∧ '{' ∈ after ∧ '}' ∉ after ∧ '@' ∉ after := by
  constructor
  · intro h
    simp only [insideAtRule, Bool.and_eq_true, decide_eq_true_eq, List.contains_iff_mem] at h
    obtain ⟨before, hb⟩ := List.getLast?_eq_some_iff.mp h.1
    refine ⟨before, Text.takeEndWhile (fun c => c != '}' && c != '@') text, ?_, h.2, ?_, ?_⟩
    · rw [List.append_cons, ← hb, Text.dropEndWhile_append_takeEndWhile]
    · intro hm
      simpa using Text.of_mem_takeEndWhile hm
    · intro hm
      simpa using Text.of_mem_takeEndWhile hm
  · rintro ⟨before, after, rfl, ho, hc, ha⟩
    have hp : ∀ c ∈ after, (c != '}' && c != '@') = true := by
      intro c hm
      simp only [Bool.and_eq_true, bne_iff_ne]
      exact ⟨fun he => hc (he ▸ hm), fun he => ha (he ▸ hm)⟩
    rw [insideAtRule, Text.takeEndWhile_append_cons before (by decide) hp,
      Text.dropEndWhile_append_cons before (by decide) hp]
    simp [ho]

theorem fromAt_append_cons (front : Text) (h : '@' ∉ b) : fromAt (front ++ '@' :: b) = '@' :: b := by
  have hb : ∀ c ∈ b, (c != '@') = true := fun c hc => bne_iff_ne.mpr fun he => h (he ▸ hc)
  simp [fromAt, Text.takeEndWhile_append_cons front _ hb]

/-- A block behind an at sign and a brace, with no other one closed in between, is named together
with the prelude. -/
theorem nameBehind_nested (front : Text) (ho : '{' ∈ inner) (hc : '}' ∉ inner) (ha : '@' ∉ inner) :
    nameBehind (front ++ '@' :: inner ++ ['{']) = canonicalName ('@' :: inner) := by
  have hi : insideAtRule (front ++ '@' :: inner) = true :=
    insideAtRule_iff.mpr ⟨front, inner, rfl, ho, hc, ha⟩
  rw [nameBehind_snoc, hi, if_pos rfl, fromAt_append_cons front ha]

-- ---------------------------------------------------------------------------
-- Own names
-- ---------------------------------------------------------------------------

def EndsBlock (front : Text) : Prop := ∀ c, front.getLast? = some c → c = '}'

theorem endsBlock_nil : EndsBlock [] := nofun

theorem endsBlock_snoc (front : Text) : EndsBlock (front ++ ['}']) := by
  intro c hc
  rw [List.getLast?_append, List.getLast?_singleton, Option.some_or] at hc
  exact (Option.some.inj hc).symm

theorem EndsBlock.cases (h : EndsBlock front) : front = [] ∨ ∃ before, front = before ++ ['}'] := by
  rcases List.eq_nil_or_concat front with rfl | ⟨before, c, rfl⟩
  · exact .inl rfl
  · obtain rfl := h c (by simp)
    exact .inr ⟨before, List.concat_eq_append⟩

theorem insideAtRule_behind (hf : EndsBlock front) (text : Text) :
    insideAtRule (front ++ text) = insideAtRule text := by
  rw [Bool.eq_iff_iff, insideAtRule_iff, insideAtRule_iff]
  constructor
  · rintro ⟨before, after, he, ho, hc, ha⟩
    rcases hf.cases with rfl | ⟨front, rfl⟩
    · exact ⟨before, after, he, ho, hc, ha⟩
    -- The at sign stands in front of the brace that closes the last block, or behind it.
    rw [List.append_assoc] at he
    rcases List.append_eq_append_iff.mp he with ⟨middle, -, hm⟩ | ⟨middle, -, hm⟩
    · cases middle with
      | nil => cases hm
      | cons c middle => exact ⟨middle, after, (List.cons.inj hm).2, ho, hc, ha⟩
    · cases middle with
      | nil => cases hm
      | cons c middle =>
        obtain rfl : after = middle ++ (['}'] ++ text) := (List.cons.inj hm).2
        exact absurd (by simp) hc
  · rintro ⟨before, after, rfl, h⟩
    exact ⟨front ++ before, after, (List.append_assoc _ _ _).symm, h⟩

theorem insideAtRule_own (hf : EndsBlock front) (hh : '{' ∉ head) :
    insideAtRule (front ++ head) = false := by
  rw [insideAtRule_behind hf, Bool.eq_false_iff]
  intro h
  obtain ⟨before, after, rfl, ho, -⟩ := insideAtRule_iff.mp h
  exact hh (by simp [ho])

theorem afterRule_behind (hf : EndsBlock front) (text : Text) :
    afterRule (front ++ text) = afterRule text :=
  Text.takeEndWhile_append_right (fun c hc => by simp [hf c hc]) text

theorem afterRule_own (hf : EndsBlock front) (hh : ∀ c ∈ head, c ≠ '}' ∧ c ≠ ';') :
    afterRule (front ++ head) = head := by
  have hp : ∀ c ∈ head, (c != '}' && c != ';') = true := fun c hc => by simpa using hh c hc
  rw [afterRule_behind hf, afterRule, ← List.nil_append head, Text.takeEndWhile_append [] hp]
  rfl

theorem fromAt_behind (front : Text) (h : insideAtRule text = true) :
    fromAt (front ++ text) = fromAt text := by
  obtain ⟨before, after, rfl, -, -, ha⟩ := insideAtRule_iff.mp h
  rw [← List.append_assoc, fromAt_append_cons _ ha, fromAt_append_cons _ ha]

theorem nameBehind_behind (hf : EndsBlock front) (h : '{' ∈ text) :
    nameBehind (front ++ text) = nameBehind text := by
  obtain ⟨own, tail, rfl, ho⟩ := Text.exists_last h
  rw [List.append_cons, ← List.append_assoc, nameBehind_append _ ho, nameBehind_append _ ho, ← List.append_assoc,
    nameBehind_snoc, nameBehind_snoc, insideAtRule_behind hf, afterRule_behind hf]
  split
  · next hi => rw [fromAt_behind front hi]
  · rfl

/-- A block at the start or behind a closed one is named by what stands in front of its brace. -/
theorem nameBehind_own (hf : EndsBlock front) (hh : ∀ c ∈ head, c ≠ '{' ∧ c ≠ '}' ∧ c ≠ ';') :
    nameBehind (front ++ head ++ ['{']) = canonicalName head := by
  have hi : insideAtRule (front ++ head) = false :=
    insideAtRule_own hf fun hm => (hh _ hm).1 rfl
  rw [nameBehind_snoc, hi, if_neg Bool.false_ne_true, afterRule_own hf fun c hc => (hh c hc).2]

end Retheme.Sheet
