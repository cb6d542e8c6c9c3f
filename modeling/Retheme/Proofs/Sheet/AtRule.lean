import Retheme.Proofs.Sheet.Block
import Retheme.Proofs.Sheet.Declaration

/-!
# Rules inside of at-rules

A sheet of plain rules and of at-rules with plain rules inside of them. Only the
first rule of an at-rule is named together with the prelude; every later one
stands behind a closed block and takes its own name, as a rule of the top level
does.
-/

namespace Retheme.Sheet

-- ---------------------------------------------------------------------------
-- Sheets with at-rules
-- ---------------------------------------------------------------------------

/-- A prelude, and plain rules in braces behind it. No other at sign stands in front of a brace. -/
structure AtRule where
  gap : Text
  prelude : Text
  blocks : List Block
  closing : Text
  gap_blank : ∀ c ∈ gap, Text.isBlank c = true
  prelude_chars : ∀ c ∈ prelude, c ≠ '{' ∧ c ≠ '}' ∧ c ≠ '@'
  prelude_commentless : Text.occursIn commentOpen prelude = false
  not_mem_selector : ∀ block ∈ blocks, '@' ∉ block.selector
  closing_blank : ∀ c ∈ closing, Text.isBlank c = true

namespace AtRule

variable (rule : AtRule)

def opening : Text := rule.gap ++ '@' :: rule.prelude

def text : Text :=
  rule.opening ++ '{' :: (rule.blocks.flatMap Block.text ++ (rule.closing ++ ['}']))

def blanked : Text :=
  rule.opening ++ '{' :: (rule.blocks.flatMap Block.blanked ++ (rule.closing ++ ['}']))

/-- What stands in front of the brace of a rule inside, from the at sign on and without the rules
in between. -/
def nested (block : Block) : Text := '@' :: (rule.prelude ++ '{' :: block.opening)

end AtRule

inductive Item where
  | plain (block : Block)
  | atRule (rule : AtRule)

def Item.text : Item → Text
  | plain block => block.text
  | atRule rule => rule.text

def Item.blanked : Item → Text
  | plain block => block.blanked
  | atRule rule => rule.blanked

structure NestedSheet where
  items : List Item
  closing : Text
  closing_blank : ∀ c ∈ closing, Text.isBlank c = true

def NestedSheet.text (sheet : NestedSheet) : Text := sheet.items.flatMap Item.text ++ sheet.closing

/-- Inside of which block: one of the top level, or one of an at-rule behind a number of others. -/
inductive Site where
  | top (block : Block)
  | nested (rule : AtRule) (index : Nat) (block : Block)

def siteAt? : List Item → Nat → Option Site
  | [], _ => none
  | .plain block :: items, position =>
    if block.encloses position then some (.top block)
    else siteAt? items (position - block.text.length)
  | .atRule rule :: items, position =>
    match enclosing? rule.blocks (position - (rule.opening.length + 1)) with
    | some (index, block) => some (.nested rule index block)
    | none => siteAt? items (position - rule.text.length)

def NestedSheet.markedSite? (sheet : NestedSheet) (position : Nat) : Option Site :=
  if (contextAt sheet.text position).isValid then
    (afterMarker? sheet.text position).bind fun (stop, _) => siteAt? sheet.items stop
  else none

-- ---------------------------------------------------------------------------
-- Blanked at-rules
-- ---------------------------------------------------------------------------

namespace AtRule

variable (rule : AtRule)

theorem opening_commentless : Text.occursIn commentOpen rule.opening = false := by
  have hp := commentless_cons (c := '@') (by decide) rule.prelude_commentless
  exact Text.occursIn_pair_append (commentless_of_isBlank rule.gap_blank) hp (by simp)

theorem nested_commentless (block : Block) :
    Text.occursIn commentOpen (rule.nested block) = false := by
  have ho := commentless_cons (c := '{') (by decide) block.opening_commentless
  refine commentless_cons (by decide) ?_
  exact Text.occursIn_pair_append rule.prelude_commentless ho (by simp)

theorem blankComments_text_append (rest : Text) :
    blankComments (rule.text ++ rest) = rule.blanked ++ blankComments rest := by
  have ho := isClosed_of_commentless rule.opening_commentless
  have hc := commentless_of_isBlank rule.closing_blank
  have hb : blankComments (rule.closing ++ '}' :: rest) =
      rule.closing ++ '}' :: blankComments rest := by
    rw [blankComments_append (isClosed_of_commentless hc) (by simp), blankComments_eq_self hc,
      blankComments_cons (by decide)]
  have ht : rule.text ++ rest = rule.opening ++ '{' ::
      (rule.blocks.flatMap Block.text ++ (rule.closing ++ '}' :: rest)) := by
    simp [text]
  rw [ht, blankComments_append ho (by simp), blankComments_eq_self rule.opening_commentless,
    blankComments_cons (by decide), blankComments_blocks_append, hb]
  simp [blanked]

theorem blanked_endsBlock (front : Text) : EndsBlock (front ++ rule.blanked) := by
  have h : front ++ rule.blanked = (front ++ rule.opening ++ '{' ::
      (rule.blocks.flatMap Block.blanked ++ rule.closing)) ++ ['}'] := by
    simp [blanked]
  rw [h]
  exact endsBlock_snoc _

end AtRule

theorem Item.blankComments_text_append (item : Item) (rest : Text) :
    blankComments (item.text ++ rest) = item.blanked ++ blankComments rest := by
  cases item with
  | plain block => exact block.blankComments_text_append rest
  | atRule rule => exact rule.blankComments_text_append rest

theorem Item.length_blanked (item : Item) : item.blanked.length = item.text.length := by
  have h := item.blankComments_text_append []
  rw [blankComments_nil, List.append_nil, List.append_nil] at h
  rw [← h, length_blankComments]

theorem Item.blanked_endsBlock (item : Item) (front : Text) : EndsBlock (front ++ item.blanked) := by
  cases item with
  | plain block => exact block.blanked_endsBlock front
  | atRule rule => exact rule.blanked_endsBlock front

theorem blankComments_items_append (items : List Item) (rest : Text) :
    blankComments (items.flatMap Item.text ++ rest) =
      items.flatMap Item.blanked ++ blankComments rest := by
  induction items with
  | nil => rfl
  | cons item items ih =>
    rw [List.flatMap_cons, List.append_assoc, item.blankComments_text_append, ih,
      List.flatMap_cons, List.append_assoc]

-- ---------------------------------------------------------------------------
-- The name found at an offset
-- ---------------------------------------------------------------------------

def Site.found : Site → Text
  | top block => canonicalName block.opening
  | nested rule index block =>
    canonicalName (if index = 0 then rule.nested block else block.opening)

theorem AtRule.not_mem_opening (rule : AtRule) {block : Block} (h : block ∈ rule.blocks) :
    '@' ∉ block.opening := by
  intro hm
  rcases List.mem_append.mp hm with hm | hm
  · exact not_mem_of_isBlank block.gap_blank (by decide) hm
  · exact rule.not_mem_selector block h hm

theorem nameBehind_first (front : Text) (rule : AtRule) {block : Block} (hb : block ∈ rule.blocks)
    {position : Nat} (hp : block.opening.length < position) :
    nameBehind (front ++ rule.opening ++ ['{'] ++ block.blanked.take position) =
      canonicalName (rule.nested block) := by
  obtain ⟨inner, hi, ht⟩ := block.take_blanked hp
  have hc : '}' ∉ rule.prelude ++ '{' :: block.opening := by
    intro hm
    rcases List.mem_append.mp hm with hm | hm
    · exact (rule.prelude_chars _ hm).2.1 rfl
    · rcases List.mem_cons.mp hm with hm | hm
      · cases hm
      · exact (block.opening_chars _ hm).2.1 rfl
  have ha : '@' ∉ rule.prelude ++ '{' :: block.opening := by
    intro hm
    rcases List.mem_append.mp hm with hm | hm
    · exact (rule.prelude_chars _ hm).2.2 rfl
    · rcases List.mem_cons.mp hm with hm | hm
      · cases hm
      · exact rule.not_mem_opening hb hm
  have he : front ++ rule.opening ++ ['{'] ++ (block.opening ++ ['{'] ++ inner) =
      front ++ rule.gap ++ '@' :: (rule.prelude ++ '{' :: block.opening) ++ ['{'] ++ inner := by
    simp [AtRule.opening]
  rw [ht, he, nameBehind_append _ hi, nameBehind_nested _ (by simp) hc ha, AtRule.nested]

/-- Of the rules inside of an at-rule the first one is named together with the prelude, and every
later one stands behind a closed block. -/
theorem nameBehind_blocks (front : Text) (rule : AtRule) {position index : Nat} {block : Block}
    (h : enclosing? rule.blocks position = some (index, block)) :
    nameBehind (front ++ rule.opening ++ ['{'] ++
      (rule.blocks.flatMap Block.blanked).take position) = (Site.nested rule index block).found := by
  cases hb : rule.blocks with
  | nil =>
    rw [hb] at h
    cases h
  | cons first blocks =>
    rw [hb, enclosing?] at h
    rw [List.flatMap_cons, List.take_append, first.length_blanked]
    split at h
    · next hp =>
      cases h
      rw [Nat.sub_eq_zero_of_le (Block.le_of_encloses hp), List.take_zero, List.append_nil,
        nameBehind_first front rule (by simp [hb]) (Block.lt_of_encloses hp)]
      rfl
    · obtain ⟨⟨i, b⟩, hi, he⟩ := Option.map_eq_some_iff.mp h
      cases he
      have hl : first.text.length < position := lt_of_enclosing?_sub hi
      have ht : first.blanked.take position = first.blanked :=
        List.take_of_length_le (by rw [first.length_blanked]; omega)
      have hn := nameBehind_take (first.blanked_endsBlock (front ++ rule.opening ++ ['{']))
        List.not_mem_nil blocks (position - first.text.length)
      rw [List.append_nil, lastOpened?_of_enclosing? hi] at hn
      rw [ht, ← List.append_assoc, hn]
      rfl

theorem length_flatMap_blanked (blocks : List Block) :
    (blocks.flatMap Block.blanked).length = (blocks.flatMap Block.text).length := by
  have h := blankComments_blocks_append blocks []
  rw [blankComments_nil, List.append_nil, List.append_nil] at h
  rw [← h, length_blankComments]

theorem AtRule.take_blanked (rule : AtRule) {k : Nat}
    (hk : k ≤ (rule.blocks.flatMap Block.text).length) :
    rule.blanked.take (rule.opening.length + 1 + k) =
      rule.opening ++ ['{'] ++ (rule.blocks.flatMap Block.blanked).take k := by
  have he : rule.opening.length + 1 + k = rule.opening.length + (k + 1) := by omega
  rw [he, blanked, List.take_length_add_append, List.take_succ_cons,
    List.take_append_of_le_length (by rw [length_flatMap_blanked]; exact hk), List.append_assoc]
  rfl

theorem le_length_of_enclosing? {blocks : List Block} {position index : Nat} {block : Block}
    (h : enclosing? blocks position = some (index, block)) :
    position ≤ (blocks.flatMap Block.text).length := by
  induction blocks generalizing position index with
  | nil => cases h
  | cons first blocks ih =>
    rw [enclosing?] at h
    rw [List.flatMap_cons, List.length_append]
    split at h
    · next hp => exact Nat.le_add_right_of_le (Block.le_of_encloses hp)
    · obtain ⟨⟨i, b⟩, hi, he⟩ := Option.map_eq_some_iff.mp h
      cases he
      have := ih hi
      omega

theorem siteAt?_zero (items : List Item) : siteAt? items 0 = none := by
  induction items with
  | nil => rfl
  | cons item items ih =>
    cases item <;> simp [siteAt?, Block.encloses, enclosing?_zero, ih]

/-- The run over the items: what was read before them ends in a block or is empty. -/
theorem nameBehind_site {front : Text} (hf : EndsBlock front) (rest : Text) {items : List Item}
    {position : Nat} {site : Site} (h : siteAt? items position = some site) :
    nameBehind (front ++ (items.flatMap Item.blanked ++ rest).take position) = site.found := by
  induction items generalizing front position with
  | nil => cases h
  | cons item items ih =>
    rw [List.flatMap_cons, List.append_assoc, List.take_append, item.length_blanked]
    have later (h : siteAt? items (position - item.text.length) = some site) :
        nameBehind (front ++ (item.blanked.take position ++
          (items.flatMap Item.blanked ++ rest).take (position - item.text.length))) =
            site.found := by
      have hl : item.text.length < position := by
        by_contra hle
        rw [Nat.sub_eq_zero_of_le (Nat.le_of_not_lt hle), siteAt?_zero] at h
        cases h
      have ht : item.blanked.take position = item.blanked :=
        List.take_of_length_le (by rw [item.length_blanked]; omega)
      rw [ht, ← List.append_assoc, ih (item.blanked_endsBlock front) h]
    cases item with
    | plain block =>
      rw [siteAt?] at h
      split at h
      · next hp =>
        cases h
        have hz : position - (Item.plain block).text.length = 0 :=
          Nat.sub_eq_zero_of_le (Block.le_of_encloses hp)
        rw [hz, List.take_zero, List.append_nil]
        exact nameBehind_block hf block (Block.lt_of_encloses hp)
      · exact later h
    | atRule rule =>
      rw [siteAt?] at h
      split at h
      · next index block he =>
        cases h
        have hk := le_length_of_enclosing? he
        have ho : rule.opening.length + 1 < position := lt_of_enclosing?_sub he
        obtain ⟨k, rfl⟩ : ∃ k, position = rule.opening.length + 1 + k :=
          ⟨position - (rule.opening.length + 1), by omega⟩
        rw [Nat.add_sub_cancel_left] at he hk
        have hz : rule.opening.length + 1 + k - (Item.atRule rule).text.length = 0 := by
          simp only [Item.text, AtRule.text, List.length_append, List.length_cons]
          omega
        rw [hz, List.take_zero, List.append_nil, Item.blanked, rule.take_blanked hk,
          ← List.append_assoc, ← List.append_assoc]
        exact nameBehind_blocks front rule he
      · exact later h

theorem ruleNameAt_site (sheet : NestedSheet) {position : Nat} {site : Site}
    (h : siteAt? sheet.items position = some site) :
    ruleNameAt sheet.text position = site.found := by
  rw [ruleNameAt_eq, NestedSheet.text, blankComments_items_append]
  exact nameBehind_site endsBlock_nil _ h

theorem enclosing?_mem {blocks : List Block} {position index : Nat} {block : Block}
    (h : enclosing? blocks position = some (index, block)) : block ∈ blocks := by
  induction blocks generalizing position index with
  | nil => cases h
  | cons first blocks ih =>
    rw [enclosing?] at h
    split at h
    · cases h
      exact List.mem_cons_self
    · obtain ⟨⟨i, b⟩, hi, he⟩ := Option.map_eq_some_iff.mp h
      cases he
      exact List.mem_cons_of_mem _ (ih hi)

-- ---------------------------------------------------------------------------
-- Names of nested rules
-- ---------------------------------------------------------------------------

theorem head?_canonicalName_nested (rule : AtRule) (block : Block) :
    (canonicalName (rule.nested block)).head? = some '@' := by
  rw [head?_canonicalName (rule.nested_commentless block), AtRule.nested,
    List.dropWhile_cons_of_neg (by decide), List.head?_cons]

theorem canonicalName_ne_nested (rule : AtRule) {block other : Block} (h : '@' ∉ block.opening) :
    canonicalName block.opening ≠ canonicalName (rule.nested other) := by
  intro he
  have hh := head?_canonicalName_nested rule other
  rw [← he, head?_canonicalName block.opening_commentless] at hh
  exact h ((List.dropWhile_suffix isSelectorBlank).subset (List.mem_of_head? hh))

theorem siteAt?_mem {items : List Item} {position index : Nat} {rule : AtRule} {block : Block}
    (h : siteAt? items position = some (.nested rule index block)) : block ∈ rule.blocks := by
  induction items generalizing position with
  | nil => cases h
  | cons item items ih =>
    cases item with
    | plain first =>
      rw [siteAt?] at h
      split at h
      · cases h
      · exact ih h
    | atRule first =>
      rw [siteAt?] at h
      split at h
      · next he =>
        cases h
        exact enclosing?_mem he
      · exact ih h

/-- A marked declaration stands in a block, and its rule is the name that is found there. -/
theorem markedSite?_found {sheet : NestedSheet} {position : Nat} {site : Site}
    (h : sheet.markedSite? position = some site) :
    (contextAt sheet.text position).rule = site.found ∧
      ∃ stop, siteAt? sheet.items stop = some site := by
  rw [NestedSheet.markedSite?] at h
  split at h
  · next hv =>
    obtain ⟨stop, rest, hm, hr⟩ := contextAt_rule hv
    rw [hm] at h
    exact ⟨hr.trans (ruleNameAt_site sheet h), stop, h⟩
  · cases h

/-- A marked declaration inside of an at-rule is given the prelude in its rule name exactly when it
stands in the first rule there. One of the top level is given its own selectors, up to blanks in
front that are not trimmed. -/
theorem contextAt_markedSite (sheet : NestedSheet) (position : Nat) :
    match sheet.markedSite? position with
    | some (.nested rule index block) =>
      (contextAt sheet.text position).rule = canonicalName (rule.nested block) ↔ index = 0
    | some (.top block) =>
      (contextAt sheet.text position).rule = canonicalName block.selector ↔
        ∀ c ∈ block.gap, isSelectorBlank c = true
    | none => True := by
  split
  · next rule index block hs =>
    obtain ⟨hf, stop, hm⟩ := markedSite?_found hs
    rw [hf, Site.found]
    constructor
    · intro he
      by_contra hi
      rw [if_neg hi] at he
      exact canonicalName_ne_nested rule (rule.not_mem_opening (siteAt?_mem hm)) he
    · intro hi
      rw [if_pos hi]
  · next block hs =>
    rw [(markedSite?_found hs).1]
    exact block.canonicalName_opening_iff
  · trivial

def markedBody : Text := " /*![demo.y]*/ e: f; "

theorem markedBody_closed : IsClosed markedBody := by
  rw [IsClosed]
  decide +kernel

theorem markedBody_chars : ∀ c ∈ blankComments markedBody, c ≠ '{' ∧ c ≠ '}' := by
  decide +kernel

def twoNested : AtRule where
  gap := []
  prelude := "media x "
  blocks :=
    [.sample [' '] Text.isBlank_of_mem_space,
      { gap := [' '], selector := ['d'], body := markedBody
        gap_blank := Text.isBlank_of_mem_space
        selector_head := ⟨'d', rfl, by decide⟩
        selector_chars := by decide
        selector_commentless := by decide
        body_closed := markedBody_closed
        body_chars := markedBody_chars }]
  closing := [' ']
  gap_blank := Text.isBlank_of_mem_nil
  prelude_chars := by decide
  prelude_commentless := by decide
  not_mem_selector := by decide
  closing_blank := Text.isBlank_of_mem_space

def nestedSample : NestedSheet where
  items := [.atRule twoNested]
  closing := []
  closing_blank := Text.isBlank_of_mem_nil

/-- Behind the first rule of an at-rule the prelude is lost. -/
theorem contextAt_second_nested :
    ¬ ∀ (sheet : NestedSheet) (position index : Nat) (rule : AtRule) (block : Block),
      sheet.markedSite? position = some (.nested rule index block) →
        (contextAt sheet.text position).rule = canonicalName (rule.nested block) := by
  intro h
  have hv : (contextAt nestedSample.text 25).isValid = true := by
    decide +kernel
  have hs : nestedSample.markedSite? 25 =
      some (.nested twoNested 1 (twoNested.blocks[1])) := by
    rw [NestedSheet.markedSite?, if_pos hv]
    rfl
  exact absurd (h _ 25 1 twoNested _ hs) (by decide +kernel)

end Retheme.Sheet
