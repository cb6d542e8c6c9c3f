import Retheme.Proofs.Sheet.CanonicalName
import Retheme.Proofs.Sheet.RuleName
import Retheme.Sheet.Declaration

/-!
# Blocks

A sheet of plain rules: selectors, a block in braces, and the next rule. Inside
a block the name found is that of its rule, when nothing but selector blanks
stand in front of the selectors. Outside of all blocks it is that of the rule
whose block was opened last, and empty only in front of the first block.
-/

namespace Retheme.Sheet

-- ---------------------------------------------------------------------------
-- Sheets of plain rules
-- ---------------------------------------------------------------------------

/-- A plain rule and the blanks in front of it. Comments may stand in the body alone, and are closed
there; braces stand in comments alone. -/
structure Block where
  gap : Text
  selector : Text
  body : Text
  gap_blank : ∀ c ∈ gap, Text.isBlank c = true
  selector_head : ∃ c, selector.head? = some c ∧ Text.isBlank c = false
  selector_chars : ∀ c ∈ selector, c ≠ '{' ∧ c ≠ '}' ∧ c ≠ ';'
  selector_commentless : Text.occursIn commentOpen selector = false
  body_closed : IsClosed body
  body_chars : ∀ c ∈ blankComments body, c ≠ '{' ∧ c ≠ '}'

namespace Block

variable (block : Block)

def opening : Text := block.gap ++ block.selector

def text : Text := block.opening ++ '{' :: (block.body ++ ['}'])

def blanked : Text := block.opening ++ '{' :: (blankComments block.body ++ ['}'])

def encloses (position : Nat) : Bool :=
  block.opening.length < position && position ≤ block.opening.length + 1 + block.body.length

end Block

/-- The block whose braces lie around an offset, and how many blocks stand in front of it. -/
def enclosing? : List Block → Nat → Option (Nat × Block)
  | [], _ => none
  | block :: blocks, position =>
    if block.encloses position then some (0, block)
    else (enclosing? blocks (position - block.text.length)).map fun (index, b) => (index + 1, b)

def lastOpened? : List Block → Nat → Option Block
  | [], _ => none
  | block :: blocks, position =>
    if position ≤ block.opening.length then none
    else (lastOpened? blocks (position - block.text.length)).or (some block)

structure PlainSheet where
  blocks : List Block
  closing : Text
  closing_blank : ∀ c ∈ closing, Text.isBlank c = true

def PlainSheet.text (sheet : PlainSheet) : Text := sheet.blocks.flatMap Block.text ++ sheet.closing

-- ---------------------------------------------------------------------------
-- Blanked blocks
-- ---------------------------------------------------------------------------

variable {text : Text} {c : Char}

theorem not_mem_of_isBlank (h : ∀ d ∈ text, Text.isBlank d = true) (hc : Text.isBlank c = false) :
    c ∉ text := by
  intro hm
  simp [h c hm] at hc

theorem commentless_of_isBlank (h : ∀ d ∈ text, Text.isBlank d = true) :
    Text.occursIn commentOpen text = false :=
  Text.occursIn_of_not_mem (not_mem_of_isBlank h (by decide))

namespace Block

variable (block : Block)

theorem opening_commentless : Text.occursIn commentOpen block.opening = false := by
  refine Text.occursIn_pair_append ?_ block.selector_commentless ?_
  · exact commentless_of_isBlank block.gap_blank
  · intro hl
    exact absurd (List.mem_of_getLast? hl) (not_mem_of_isBlank block.gap_blank (by decide))

theorem opening_chars : ∀ c ∈ block.opening, c ≠ '{' ∧ c ≠ '}' ∧ c ≠ ';' := by
  intro c hc
  rcases List.mem_append.mp hc with hc | hc
  · refine ⟨?_, ?_, ?_⟩ <;> rintro rfl <;> exact absurd (block.gap_blank _ hc) (by decide)
  · exact block.selector_chars c hc

theorem blankComments_text_append (rest : Text) :
    blankComments (block.text ++ rest) = block.blanked ++ blankComments rest := by
  have ho := isClosed_of_commentless block.opening_commentless
  have hb : blankComments (block.body ++ '}' :: rest) =
      blankComments block.body ++ '}' :: blankComments rest := by
    rw [blankComments_append block.body_closed (by simp), blankComments_cons (by decide)]
  have ht : block.text ++ rest = block.opening ++ '{' :: (block.body ++ '}' :: rest) := by
    simp [text]
  rw [ht, blankComments_append ho (by simp), blankComments_eq_self block.opening_commentless,
    blankComments_cons (by decide), hb]
  simp [blanked]

theorem length_blanked : block.blanked.length = block.text.length := by
  have h := block.blankComments_text_append []
  rw [blankComments_nil, List.append_nil, List.append_nil] at h
  rw [← h, length_blankComments]

theorem blanked_endsBlock (front : Text) : EndsBlock (front ++ block.blanked) := by
  have h : front ++ block.blanked =
      (front ++ block.opening ++ '{' :: blankComments block.body) ++ ['}'] := by
    simp [blanked]
  rw [h]
  exact endsBlock_snoc _

end Block

theorem blankComments_blocks_append (blocks : List Block) (rest : Text) :
    blankComments (blocks.flatMap Block.text ++ rest) =
      blocks.flatMap Block.blanked ++ blankComments rest := by
  induction blocks with
  | nil => rfl
  | cons block blocks ih =>
    rw [List.flatMap_cons, List.append_assoc, block.blankComments_text_append, ih,
      List.flatMap_cons, List.append_assoc]

-- ---------------------------------------------------------------------------
-- The name found at an offset
-- ---------------------------------------------------------------------------

namespace Block

variable {block : Block} {position : Nat}

theorem length_opening_le (block : Block) : block.opening.length ≤ block.text.length := by
  simp [text]

theorem lt_of_encloses (h : block.encloses position = true) : block.opening.length < position := by
  simp only [encloses, Bool.and_eq_true, decide_eq_true_eq] at h
  exact h.1

theorem le_of_encloses (h : block.encloses position = true) : position ≤ block.text.length := by
  simp only [encloses, Bool.and_eq_true, decide_eq_true_eq] at h
  simp only [text, List.length_append, List.length_cons]
  omega

end Block

theorem enclosing?_zero (blocks : List Block) : enclosing? blocks 0 = none := by
  induction blocks with
  | nil => rfl
  | cons block blocks ih => simp [enclosing?, Block.encloses, ih]

theorem lt_of_enclosing?_sub {blocks : List Block} {position length : Nat} {found : Nat × Block}
    (h : enclosing? blocks (position - length) = some found) : length < position := by
  by_contra hle
  rw [Nat.sub_eq_zero_of_le (Nat.le_of_not_lt hle), enclosing?_zero] at h
  cases h

theorem lastOpened?_zero (blocks : List Block) : lastOpened? blocks 0 = none := by
  cases blocks <;> simp [lastOpened?]

theorem lastOpened?_of_enclosing? {blocks : List Block} {position index : Nat} {block : Block}
    (h : enclosing? blocks position = some (index, block)) :
    lastOpened? blocks position = some block := by
  induction blocks generalizing position index with
  | nil => cases h
  | cons first blocks ih =>
    rw [enclosing?] at h
    rw [lastOpened?]
    split at h
    · next hp =>
      cases h
      rw [if_neg (Nat.not_le_of_lt (Block.lt_of_encloses hp)),
        Nat.sub_eq_zero_of_le (Block.le_of_encloses hp), lastOpened?_zero]
      rfl
    · obtain ⟨⟨i, b⟩, hi, he⟩ := Option.map_eq_some_iff.mp h
      cases he
      have hn := Nat.lt_of_le_of_lt first.length_opening_le (lt_of_enclosing?_sub hi)
      rw [if_neg (Nat.not_le_of_lt hn), ih hi]
      rfl

theorem Block.take_blanked (block : Block) {position : Nat}
    (hp : block.opening.length < position) :
    ∃ inner, '{' ∉ inner ∧ block.blanked.take position = block.opening ++ ['{'] ++ inner := by
  obtain ⟨k, rfl⟩ : ∃ k, position = block.opening.length + (k + 1) :=
    ⟨position - block.opening.length - 1, by omega⟩
  refine ⟨(blankComments block.body ++ ['}']).take k, ?_, ?_⟩
  · intro hm
    rcases List.mem_append.mp (List.mem_of_mem_take hm) with hm | hm
    · exact (block.body_chars _ hm).1 rfl
    · cases List.mem_singleton.mp hm
  · rw [blanked, List.take_length_add_append, List.take_succ_cons, List.append_assoc]
    rfl

theorem nameBehind_block {front : Text} (hf : EndsBlock front) (block : Block) {position : Nat}
    (hp : block.opening.length < position) :
    nameBehind (front ++ block.blanked.take position) = canonicalName block.opening := by
  obtain ⟨inner, hi, ht⟩ := block.take_blanked hp
  rw [ht, ← List.append_assoc, ← List.append_assoc, nameBehind_append _ hi,
    nameBehind_own hf block.opening_chars]

/-- The run over the blocks: what was read before them ends in a block or is empty. -/
theorem nameBehind_take {front rest : Text} (hf : EndsBlock front) (hr : '{' ∉ rest)
    (blocks : List Block) (position : Nat) :
    nameBehind (front ++ (blocks.flatMap Block.blanked ++ rest).take position) =
      ((lastOpened? blocks position).map fun block => canonicalName block.opening).getD
        (nameBehind front) := by
  induction blocks generalizing front position with
  | nil =>
    have ht : '{' ∉ rest.take position := fun hm => hr (List.mem_of_mem_take hm)
    rw [List.flatMap_nil, List.nil_append, nameBehind_append front ht]
    rfl
  | cons block blocks ih =>
    rw [List.flatMap_cons, List.append_assoc, List.take_append, block.length_blanked,
      ← List.append_assoc, lastOpened?]
    by_cases hp : position ≤ block.opening.length
    · -- Nothing is opened yet, and nothing of what follows is reached.
      have ho : '{' ∉ block.blanked.take position := by
        rw [Block.blanked, List.take_append_of_le_length hp]
        exact fun hm => (block.opening_chars _ (List.mem_of_mem_take hm)).1 rfl
      have hz : position - block.text.length = 0 :=
        Nat.sub_eq_zero_of_le (Nat.le_trans hp block.length_opening_le)
      rw [if_pos hp, hz, List.take_zero, List.append_nil, nameBehind_append front ho]
      rfl
    · have hn := nameBehind_block hf block (Nat.lt_of_not_le hp)
      rw [if_neg hp]
      by_cases hl : position ≤ block.text.length
      · have hz : position - block.text.length = 0 := by omega
        rw [hz, List.take_zero, List.append_nil, hn, lastOpened?_zero]
        rfl
      · have ht : block.blanked.take position = block.blanked :=
          List.take_of_length_le (by rw [block.length_blanked]; omega)
        rw [ht] at hn ⊢
        rw [ih (block.blanked_endsBlock front), hn]
        cases lastOpened? blocks (position - block.text.length) <;> rfl

theorem ruleNameAt_text (sheet : PlainSheet) (position : Nat) :
    ruleNameAt sheet.text position =
      ((lastOpened? sheet.blocks position).map fun block => canonicalName block.opening).getD [] := by
  have hc := commentless_of_isBlank sheet.closing_blank
  have hb := not_mem_of_isBlank sheet.closing_blank (c := '{') (by decide)
  rw [ruleNameAt_eq, PlainSheet.text, blankComments_blocks_append, blankComments_eq_self hc]
  exact nameBehind_take endsBlock_nil hb sheet.blocks position

-- ---------------------------------------------------------------------------
-- Names of blocks
-- ---------------------------------------------------------------------------

namespace Block

variable (block : Block)

theorem head?_canonicalName_selector : (canonicalName block.selector).head? = block.selector.head? := by
  obtain ⟨c, hc, hb⟩ := block.selector_head
  obtain ⟨rest, hs⟩ := List.head?_eq_some_iff.mp hc
  have hn : ¬ isSelectorBlank c = true := by
    intro h
    simp [isBlank_of_isSelectorBlank h] at hb
  rw [head?_canonicalName block.selector_commentless, hs, List.dropWhile_cons_of_neg hn]

theorem head?_canonicalName_opening :
    (canonicalName block.opening).head? =
      (block.gap.dropWhile isSelectorBlank).head?.or block.selector.head? := by
  rw [head?_canonicalName block.opening_commentless, opening, List.dropWhile_append]
  split
  · next h =>
    rw [List.isEmpty_iff.mp h, ← head?_canonicalName block.selector_commentless,
      block.head?_canonicalName_selector]
    rfl
  · rw [List.head?_append]

theorem canonicalName_opening_ne_nil : canonicalName block.opening ≠ [] := by
  intro hn
  obtain ⟨c, hc, -⟩ := block.selector_head
  have hh := block.head?_canonicalName_opening
  rw [hn, hc] at hh
  cases hg : (block.gap.dropWhile isSelectorBlank).head? <;> simp [hg] at hh

theorem canonicalName_opening_iff :
    canonicalName block.opening = canonicalName block.selector ↔
      ∀ c ∈ block.gap, isSelectorBlank c = true := by
  constructor
  · intro he
    have hh := block.head?_canonicalName_opening
    rw [he, block.head?_canonicalName_selector] at hh
    cases hg : block.gap.dropWhile isSelectorBlank with
    | nil => exact List.dropWhile_eq_nil_iff.mp hg
    | cons d rest =>
      obtain ⟨c, hc, hb⟩ := block.selector_head
      rw [hg, hc] at hh
      cases hh
      have hd : d ∈ block.gap := (List.dropWhile_suffix isSelectorBlank).subset (by simp [hg])
      simp [block.gap_blank d hd] at hb
  · intro hg
    rw [← canonicalName_dropWhile block.opening_commentless, opening,
      List.dropWhile_append_of_pos hg, canonicalName_dropWhile block.selector_commentless]

end Block

/-- Inside a block the name is that of its selectors, up to blanks in front that are not trimmed.
Outside of all blocks there is a name as soon as one was opened: that of the last one. -/
theorem ruleNameAt_enclosing (sheet : PlainSheet) (position : Nat) :
    match enclosing? sheet.blocks position with
    | some (_, block) =>
      ruleNameAt sheet.text position = canonicalName block.selector ↔
        ∀ c ∈ block.gap, isSelectorBlank c = true
    | none => ruleNameAt sheet.text position = [] ↔ lastOpened? sheet.blocks position = none := by
  rw [ruleNameAt_text]
  split
  · next block he =>
    rw [lastOpened?_of_enclosing? he]
    exact block.canonicalName_opening_iff
  · cases ho : lastOpened? sheet.blocks position with
    | none => simp
    | some block => simpa using block.canonicalName_opening_ne_nil

def Block.slashless (gap selector body : Text) (hg : ∀ c ∈ gap, Text.isBlank c = true)
    (hh : ∃ c, selector.head? = some c ∧ Text.isBlank c = false)
    (hs : ∀ c ∈ selector, c ≠ '{' ∧ c ≠ '}' ∧ c ≠ ';' ∧ c ≠ '/')
    (hb : ∀ c ∈ body, c ≠ '{' ∧ c ≠ '}' ∧ c ≠ '/') : Block :=
  have hc : Text.occursIn commentOpen body = false :=
    Text.occursIn_of_not_mem fun hm => (hb _ hm).2.2 rfl
  { gap, selector, body
    gap_blank := hg
    selector_head := hh
    selector_chars := fun c hm => ⟨(hs c hm).1, (hs c hm).2.1, (hs c hm).2.2.1⟩
    selector_commentless := Text.occursIn_of_not_mem fun hm => (hs _ hm).2.2.2 rfl
    body_closed := isClosed_of_commentless hc
    body_chars := by
      rw [blankComments_eq_self hc]
      exact fun c hm => ⟨(hb c hm).1, (hb c hm).2.1⟩ }

def Block.sample (gap : Text) (hg : ∀ c ∈ gap, Text.isBlank c = true) : Block :=
  .slashless gap ['a'] " b: c; " hg ⟨'a', rfl, by decide⟩ (by decide) (by decide)

def singleRule (gap : Text) (hg : ∀ c ∈ gap, Text.isBlank c = true) : PlainSheet where
  blocks := [.sample gap hg]
  closing := [' ']
  closing_blank := Text.isBlank_of_mem_space

/-- Behind a block its name is still found, for a marker there as well, and a form feed in front of
a rule becomes part of its name. -/
theorem ruleNameAt_not_enclosing :
    (¬ ∀ (sheet : PlainSheet) (position : Nat), enclosing? sheet.blocks position = none →
      ruleNameAt sheet.text position = []) ∧
    (¬ ∀ (sheet : PlainSheet) (position index : Nat) (block : Block),
      enclosing? sheet.blocks position = some (index, block) →
        ruleNameAt sheet.text position = canonicalName block.selector) ∧
    contextAt ("a \x7b b: c; \x7d /*![demo.x]*/ d: e;" : String) 12 =
      ⟨("d" : String), ("a" : String), false⟩ := by
  refine ⟨?_, ?_, by decide +kernel⟩
  · intro h
    exact absurd (h (singleRule [] Text.isBlank_of_mem_nil) 11 (by decide +kernel)) (by decide +kernel)
  · intro h
    exact absurd (h (singleRule ['\x0c'] (by decide)) 8 0 _ rfl) (by decide +kernel)

end Retheme.Sheet
