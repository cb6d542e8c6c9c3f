import Mathlib.Data.List.Nodup
import Retheme.Proofs.Override.Grouping

/-!
# The style block of recorded overrides

What a style block holds after any overrides were recorded, said without a
store: a line for each rule, on it the first override of each property, and a
line for each font. Every recorded rule and property is written, and only once.
Behind a rule as many braces are closed as its name leaves open, except those
that make up for closing braces of the name that close nothing.
-/

namespace Retheme.OverrideStore

variable {records : List Override} {rule prop : Text}

-- ---------------------------------------------------------------------------
-- Braces without a partner
-- ---------------------------------------------------------------------------

/-- How many braces are open behind a text. A closing brace with no open one in front closes
nothing. -/
def unclosed (opened : Nat) : Text → Nat
  | [] => opened
  | c :: rest =>
    if c = '{' then unclosed (opened + 1) rest
    else if c = '}' then unclosed (opened - 1) rest
    else unclosed opened rest

def unopened (opened : Nat) : Text → Nat
  | [] => 0
  | c :: rest =>
    if c = '{' then unopened (opened + 1) rest
    else if c = '}' then (if opened = 0 then 1 else 0) + unopened (opened - 1) rest
    else unopened opened rest

theorem count_add_unopened (opened : Nat) (text : Text) :
    opened + text.count '{' + unopened opened text = text.count '}' + unclosed opened text := by
  induction text generalizing opened with
  | nil => simp [unopened, unclosed]
  | cons c rest ih =>
    rw [unopened, unclosed, List.count_cons, List.count_cons]
    by_cases ho : c = '{'
    · have := ih (opened + 1)
      simp only [ho, if_true, beq_self_eq_true, Char.reduceBEq, Bool.false_eq_true, if_false]
      omega
    · by_cases hc : c = '}'
      · have := ih (opened - 1)
        simp only [hc, Char.reduceEq, if_true, if_false, beq_self_eq_true, Char.reduceBEq,
          Bool.false_eq_true]
        split <;> omega
      · have := ih opened
        simp only [ho, hc, if_false, beq_iff_eq]
        omega

theorem count_sub_count (text : Text) :
    text.count '{' - text.count '}' = unclosed 0 text - unopened 0 text := by
  have := count_add_unopened 0 text
  omega

-- ---------------------------------------------------------------------------
-- Style blocks without a store
-- ---------------------------------------------------------------------------

structure Line where
  rule : Text
  overrides : List Override

def firstOf? (records : List Override) (rule prop : Text) : Option Override :=
  records.find? fun override => override.rule = rule ∧ override.prop = prop

/-- The line of a rule: of each property recorded for it, in the order of their first records, that
first record. -/
def line (records : List Override) (rule : Text) : Line where
  rule
  overrides := ((records.filter fun override => override.rule = rule).map Override.prop).eraseDups
    |>.filterMap (firstOf? records rule)

def lines (records : List Override) : List Line :=
  (records.map Override.rule).eraseDups.map (line records)

def written (records : List Override) : List (Text × Text) :=
  (lines records).flatMap fun line => line.overrides.map fun override => (line.rule, override.prop)

def declarationText (override : Override) : Text :=
  override.prop ++ ": " ++ override.value ++
    (if override.important then " !important" else "").toList ++ [';']

def Line.text (closing : Text → Nat) (line : Line) : Text :=
  line.rule ++ " \x7b " ++ Text.join [' '] (line.overrides.map declarationText) ++ " \x7d" ++
    List.replicate (closing line.rule) '}' ++ ['\n']

def fontText (family source : Text) : Text :=
  "@font-face \x7b font-family: " ++ family ++ "; src: url('" ++ source ++ "'); \x7d\n"

def block (closing : Text → Nat) (records : List Override) (fonts : Entries Text) : Text :=
  (lines records).flatMap (Line.text closing) ++
    fonts.flatMap fun (family, source) => fontText family source

-- ---------------------------------------------------------------------------
-- What is written of a rule
-- ---------------------------------------------------------------------------

theorem declaration_eq (override : Override) : override.declaration = declarationText override := by
  cases hi : override.important <;> simp [Override.declaration, declarationText, hi]

theorem overrides_line (records : List Override) (rule : Text) :
    (line records rule).overrides =
      firsts (records.filter fun override => override.rule = rule) := by
  rw [line, firsts]
  refine List.filterMap_congr fun prop _ => ?_
  rw [firstOf?, List.find?_filter]
  exact List.find?_congr fun override _ => by simp

def rows (store : OverrideStore) : List Line :=
  store.map fun (rule, overrides) => ⟨rule, firstOfProps [] overrides⟩

theorem rows_cons (rule : Text) (overrides : List Override) (store : OverrideStore) :
    rows ((rule, overrides) :: store) = ⟨rule, firstOfProps [] overrides⟩ :: rows store := rfl

theorem renderRule_eq (rule : Text) (overrides : List Override) :
    renderRule rule overrides =
      Line.text (fun rule => unclosed 0 rule - unopened 0 rule)
        ⟨rule, firstOfProps [] overrides⟩ := by
  have hd : ∀ overrides : List Override,
      overrides.map Override.declaration = overrides.map declarationText :=
    fun overrides => List.map_congr_left fun override _ => declaration_eq override
  rw [renderRule, Line.text, hd, count_sub_count]

theorem render_eq (fonts : Entries Text) (store : OverrideStore) :
    render fonts store =
      (rows store).flatMap (Line.text fun rule => unclosed 0 rule - unopened 0 rule) ++
        fonts.flatMap fun (family, source) => fontText family source := by
  rw [render, rows, List.flatMap_map]
  congr 1
  exact List.flatMap_congr fun entry _ => renderRule_eq entry.1 entry.2

theorem rows_grouped (records : List Override) : rows (grouped records) = lines records := by
  rw [rows, grouped, lines, List.map_map]
  refine List.map_congr_left fun rule _ => ?_
  have hl := overrides_line records rule
  rw [← firstOfProps_nil] at hl
  exact congrArg (Line.mk rule) hl.symm

theorem render_grouped_records (records : List Override) (fonts : Entries Text) :
    render fonts (grouped records) =
      block (fun rule => unclosed 0 rule - unopened 0 rule) records fonts := by
  rw [render_eq, rows_grouped, block]

-- ---------------------------------------------------------------------------
-- Nothing lost, nothing twice
-- ---------------------------------------------------------------------------

theorem firstOf?_prop {override : Override} (h : firstOf? records rule prop = some override) :
    override.rule = rule ∧ override.prop = prop := by
  simpa using List.find?_some h

theorem map_prop_filterMap (records : List Override) (rule : Text) {props : List Text}
    (h : ∀ prop ∈ props, ∃ override ∈ records, override.rule = rule ∧ override.prop = prop) :
    (props.filterMap (firstOf? records rule)).map Override.prop = props := by
  induction props with
  | nil => rfl
  | cons prop props ih =>
    obtain ⟨override, hm, hr, hp⟩ := h prop List.mem_cons_self
    have hs : (firstOf? records rule prop).isSome := by
      rw [firstOf?, List.find?_isSome]
      exact ⟨override, hm, by simp [hr, hp]⟩
    obtain ⟨first, hf⟩ := Option.isSome_iff_exists.mp hs
    rw [List.filterMap_cons_some hf, List.map_cons, (firstOf?_prop hf).2,
      ih fun other ho => h other (List.mem_cons_of_mem _ ho)]

theorem map_prop_line (records : List Override) (rule : Text) :
    (line records rule).overrides.map Override.prop =
      ((records.filter fun override => override.rule = rule).map Override.prop).eraseDups := by
  refine map_prop_filterMap records rule fun prop hp => ?_
  obtain ⟨override, hm, rfl⟩ := List.mem_map.mp (List.mem_eraseDups.mp hp)
  obtain ⟨hm, hr⟩ := List.mem_filter.mp hm
  exact ⟨override, hm, of_decide_eq_true hr, rfl⟩

theorem written_eq (records : List Override) :
    written records = (records.map Override.rule).eraseDups.flatMap fun rule =>
      (((records.filter fun override => override.rule = rule).map Override.prop).eraseDups).map
        fun prop => (rule, prop) := by
  rw [written, lines, List.flatMap_map]
  refine List.flatMap_congr fun rule _ => ?_
  rw [← map_prop_line, List.map_map]
  rfl

theorem mem_written : (rule, prop) ∈ written records ↔
    ∃ override ∈ records, override.rule = rule ∧ override.prop = prop := by
  rw [written_eq]
  simp only [List.mem_flatMap, List.mem_map, List.mem_eraseDups, List.mem_filter, Prod.mk.injEq]
  constructor
  · rintro ⟨rule, -, prop, ⟨override, ⟨hm, hr⟩, rfl⟩, rfl, rfl⟩
    exact ⟨override, hm, of_decide_eq_true hr, rfl⟩
  · rintro ⟨override, hm, rfl, rfl⟩
    exact ⟨override.rule, ⟨override, hm, rfl⟩, override.prop, ⟨override, ⟨hm, by simp⟩, rfl⟩, rfl, rfl⟩

theorem nodup_written (records : List Override) : (written records).Nodup := by
  rw [written_eq, List.nodup_flatMap]
  constructor
  · intro rule _
    exact (nodup_eraseDups _).map fun a b he => (Prod.mk.inj he).2
  · -- Pairs of different rules differ.
    refine (nodup_eraseDups (records.map Override.rule)).imp fun hne pair ha hb => ?_
    obtain ⟨_, -, rfl⟩ := List.mem_map.mp ha
    obtain ⟨_, -, he⟩ := List.mem_map.mp hb
    exact hne (Prod.mk.inj he).1.symm

-- ---------------------------------------------------------------------------
-- The style block of a store
-- ---------------------------------------------------------------------------

/-- The first record of a rule and property is written, whatever comes later, and no recorded rule
and property is lost or written twice. -/
theorem render_records (records : List Override) (fonts : Entries Text) :
    render fonts (records.foldl (fun store override => record override store) []) =
        block (fun rule => unclosed 0 rule - unopened 0 rule) records fonts ∧
      (written records).Nodup ∧
      ∀ rule prop, (rule, prop) ∈ written records ↔
        ∃ override ∈ records, override.rule = rule ∧ override.prop = prop := by
  refine ⟨?_, nodup_written records, fun rule prop => mem_written⟩
  rw [foldl_record, render_grouped_records]

/-- An open brace behind one that closes nothing is not closed. -/
theorem render_not_unclosed :
    ¬ ∀ (records : List Override) (fonts : Entries Text),
      render fonts (records.foldl (fun store override => record override store) []) =
        block (unclosed 0) records fonts := by
  intro h
  have hs := h [⟨"\x7d\x7b", ['p'], ['v'], ['k'], false⟩] []
  exact absurd hs (by decide +kernel)

end Retheme.OverrideStore
