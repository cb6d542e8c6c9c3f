import Retheme.Proofs.Expression.RoundTrip
import Retheme.Proofs.Processor.Outcome

/-!
# Adding themes one after the other

Without hooks a marker leaves the processor as its expression does, or with one
more override. What adding a theme does is what scanning its sheets does, but
for reports and the note that it was scanned; a failure on the way keeps what
was done before. What is published is all overrides so far with the fonts of
the theme.
-/

namespace Retheme.Processor

variable {processor : Processor} {source : Text} {theme : Theme} {marker : Sheet.Marker}

-- ---------------------------------------------------------------------------
-- Scanning step by step
-- ---------------------------------------------------------------------------

/-- Hooks never fail and only report. When none of them changes the rule of an override, all of them
do not. -/
theorem exists_run_runHooks (hooks : List Hook) (override : Override) (processor : Processor) :
    ∃ changed log, Step.run (runHooks theme override hooks) processor =
      (.ok changed, processor.logged log) ∧
        ((∀ hook ∈ hooks, ∀ override, (hook theme override).1.rule = override.rule) →
          changed.rule = override.rule) := by
  induction hooks generalizing override processor with
  | nil => exact ⟨override, processor.work.log, rfl, fun _ => rfl⟩
  | cons hook hooks ih =>
    have hrest {changed next : Override} (hn : next.rule = (hook theme override).1.rule)
        (hr : (∀ hook ∈ hooks, ∀ override, (hook theme override).1.rule = override.rule) →
          changed.rule = next.rule)
        (hh : ∀ each ∈ hook :: hooks, ∀ override, (each theme override).1.rule = override.rule) :
        changed.rule = override.rule :=
      (hr fun each hm => hh each (List.mem_cons_of_mem _ hm)).trans
        (hn.trans (hh hook List.mem_cons_self override))
    rw [runHooks.eq_def]
    dsimp only
    split
    · obtain ⟨changed, log, hrun, hrule⟩ := ih { (hook theme override).1 with value := _ } processor
      exact ⟨changed, log, hrun, hrest rfl hrule⟩
    · obtain ⟨changed, log, hrun, hrule⟩ := ih (hook theme override).1 processor
      exact ⟨changed, log, hrun, hrest rfl hrule⟩
    · rw [Step.run_bind, run_event]
      obtain ⟨changed, log, hrun, hrule⟩ := ih (hook theme override).1 (processor.logged _)
      exact ⟨changed, log, hrun, hrest rfl hrule⟩

def overrideOf (processor : Processor) (source : Text) (theme : Theme) (marker : Sheet.Marker)
    (value : Text) : Override :=
  let context := Sheet.contextAt source marker.start
  { rule := processor.work.scopes.scope context.rule theme.name
    prop := context.prop
    value
    key := marker.key
    important := context.important }

def keep (theme : Theme) (override : Override) : Step Processor Bool := do
  let hooks ← Step.read Processor.hooks
  let override ← runHooks theme override hooks
  Step.update fun processor => { processor with overrides := processor.overrides.record override }
  return true

theorem exists_run_keep (theme : Theme) (override : Override) (processor : Processor) :
    ∃ changed log, Step.run (keep theme override) processor =
      (.ok true, (processor.logged log).recorded changed) ∧
        ((∀ hook ∈ processor.hooks, ∀ override, (hook theme override).1.rule = override.rule) →
          changed.rule = override.rule) := by
  obtain ⟨changed, log, hrun, hrule⟩ :=
    @exists_run_runHooks theme processor.hooks override processor
  refine ⟨changed, log, ?_, hrule⟩
  rw [keep, Step.run_bind, Step.run_read]
  dsimp only
  rw [Step.run_bind, hrun]
  rfl

/-- A marker with a text in front of a declaration is recorded under the scopes that its expression
leaves. -/
theorem run_scanMarker_eq (source : Text) (theme : Theme) (marker : Sheet.Marker)
    (processor : Processor) :
    Step.run (scanMarker source theme marker) processor =
      let (value, led) := processor.led (siteOf source theme marker)
      match value.declared? with
      | .error failure => (.error failure, led)
      | .ok none => (.ok false, led)
      | .ok (some value) =>
        if (Sheet.contextAt source marker.start).isValid then
          Step.run (keep theme (led.overrideOf source theme marker value)) led
        else
          (.ok false,
            led.logged (led.work.log ++ [.detachedMarker marker.expression marker.start])) := by
  rw [siteOf, scanMarker, Step.run_bind, run_evaluate]
  dsimp only
  cases (processor.led ⟨marker.expression, theme, source, marker.start⟩).1.declared? with
  | error => rfl
  | ok result =>
    cases result with
    | none => rfl
    | some value => cases (Sheet.contextAt source marker.start).isValid <;> rfl

/-- Overrides and reports apart, a marker does to a processor what its expression does. -/
theorem exists_state_scanMarker (source : Text) (theme : Theme) (marker : Sheet.Marker)
    (processor : Processor) :
    ∃ log overrides, (Step.run (scanMarker source theme marker) processor).2 =
      { (processor.led (siteOf source theme marker)).2.logged log with overrides } := by
  rw [run_scanMarker_eq]
  generalize processor.led (siteOf source theme marker) = led
  dsimp only
  split
  · exact ⟨led.2.work.log, led.2.overrides, rfl⟩
  · exact ⟨led.2.work.log, led.2.overrides, rfl⟩
  · split
    · obtain ⟨changed, log, hrun, -⟩ := exists_run_keep _ _ _
      rw [hrun]
      exact ⟨log, led.2.overrides.record changed, rfl⟩
    · exact ⟨led.2.work.log ++ [.detachedMarker marker.expression marker.start], led.2.overrides,
        rfl⟩

theorem run_scanMarker (hh : processor.hooks = []) (source : Text) (theme : Theme)
    (marker : Sheet.Marker) :
    Step.run (scanMarker source theme marker) processor =
      let (value, led) := processor.led (siteOf source theme marker)
      match value.declared? with
      | .error failure => (.error failure, led)
      | .ok none => (.ok false, led)
      | .ok (some value) =>
        if (Sheet.contextAt source marker.start).isValid then
          (.ok true, led.recorded (led.overrideOf source theme marker value))
        else
          (.ok false,
            led.logged (led.work.log ++ [.detachedMarker marker.expression marker.start])) := by
  have hl : (processor.led (siteOf source theme marker)).2.hooks = [] := hh
  have hkeep (override : Override) :
      Step.run (keep theme override) (processor.led (siteOf source theme marker)).2 =
        (.ok true, (processor.led (siteOf source theme marker)).2.recorded override) := by
    rw [keep, Step.run_bind, Step.run_read, hl]
    rfl
  rw [run_scanMarker_eq]
  dsimp only
  simp only [hkeep]

theorem state_run_bind_pure {α β : Type} (step : Step Processor α) (f : α → β)
    (processor : Processor) :
    (Step.run (do return f (← step)) processor).2 = (Step.run step processor).2 := by
  rw [Step.run_bind]
  cases Step.run step processor with
  | mk result after => cases result <;> rfl

theorem state_scanMarkers_cons (source : Text) (theme : Theme) (marker : Sheet.Marker)
    (rest : List Sheet.Marker) (processor : Processor) :
    (Step.run (scanMarkers source theme (marker :: rest)) processor).2 =
      match Step.run (scanMarker source theme marker) processor with
      | (.ok _, after) => (Step.run (scanMarkers source theme rest) after).2
      | (.error _, after) => after := by
  rw [scanMarkers, Step.run_bind]
  cases Step.run (scanMarker source theme marker) processor with
  | mk result after =>
    cases result with
    | error => rfl
    | ok recorded => exact state_run_bind_pure _ (fun more : Nat => _) after

theorem state_scanSheets_cons (theme : Theme) (sheet : Sheet) (sheets : List Sheet)
    {processor fetched : Processor} {text : Text}
    (hf : Step.run (fetch sheet) processor = (.ok text, fetched)) :
    (Step.run (scanSheets theme (sheet :: sheets)) processor).2 =
      match Step.run (scan text theme) fetched with
      | (.ok _, after) => (Step.run (scanSheets theme sheets) after).2
      | (.error _, after) => after := by
  rw [scanSheets_cons, Step.run_bind, hf]
  dsimp only
  rw [Step.run_bind]
  cases Step.run (scan text theme) fetched with
  | mk result after =>
    cases result with
    | error => rfl
    | ok recorded => exact state_run_bind_pure _ (fun more : Nat => _) after

-- ---------------------------------------------------------------------------
-- Adding and publishing
-- ---------------------------------------------------------------------------

structure Addition where
  sheets : List Sheet
  theme : Theme

variable {addition : Addition} {block : Text}

def add (processor : Processor) (addition : Addition) : Processor :=
  (Step.run (addTheme addition.sheets addition.theme) processor).2

def addAll (processor : Processor) (additions : List Addition) : Processor :=
  additions.foldl add processor

def block? (processor : Processor) (addition : Addition) : Option Text :=
  match (Step.run (addTheme addition.sheets addition.theme) processor).1 with
  | .ok block => block
  | .error _ => none

def blocks (processor : Processor) : List Addition → List Text
  | [] => []
  | addition :: rest =>
    (processor.block? addition).toList ++ blocks (processor.add addition) rest

/-- What adding each theme gives: a style block, nothing, or a failure. -/
def outcomes (processor : Processor) : List Addition → List (Except Failure (Option Text))
  | [] => []
  | addition :: rest =>
    (Step.run (addTheme addition.sheets addition.theme) processor).1 ::
      outcomes (processor.add addition) rest

/-- What is published for a theme: nothing while there is no override. -/
def published (processor : Processor) (theme : Theme) : Except Failure (Option Text) :=
  if processor.overrides.isEmpty then .ok none
  else (processor.synthesize (some theme)).map some

theorem run_publish (theme : Theme) (processor : Processor) :
    Step.run (publish theme) processor = (processor.published theme, processor) := by
  rw [publish, published]
  simp only [Step.run_bind, Step.run_read, id_eq]
  split
  · rfl
  · rw [Step.run_bind, Step.run_ofExcept]
    cases processor.synthesize (some theme) <;> rfl

theorem published_eq_some_iff {theme : Theme} :
    processor.published theme = .ok (some block) ↔
      processor.overrides ≠ [] ∧ ∃ fonts, fontTexts (theme.fonts.getD []) = .ok fonts ∧
        block = processor.overrides.render fonts := by
  rw [published, synthesize, Option.bind_some]
  cases processor.overrides with
  | nil => simp
  | cons entry rest =>
    cases fontTexts (theme.fonts.getD []) with
    | error => simp [bind, Except.bind, Except.map]
    | ok fonts => simp [bind, Except.bind, pure, Except.pure, Except.map, eq_comm]

theorem add_eq (processor : Processor) (addition : Addition) :
    processor.add addition = (Step.run (scanOnce addition.sheets addition.theme) processor).2 := by
  rw [add, addTheme_eq, Step.run_bind]
  cases Step.run (scanOnce addition.sheets addition.theme) processor with
  | mk result after =>
    cases result with
    | error => rfl
    | ok => exact congrArg Prod.snd (run_publish addition.theme after)

def noted (processor : Processor) (scanned : List Text) (log : List Event) : Processor :=
  { processor with scanned, work := { processor.work with log } }

theorem exists_add_eq (processor : Processor) (addition : Addition) :
    ∃ scanned log,
      processor.add addition = (processor.settled addition.sheets addition.theme).noted scanned log := by
  rw [add_eq, settled, scanOnce]
  simp only [Step.run_bind, Step.run_read, id_eq]
  cases processor.hasScanned addition.theme.name with
  | true => exact ⟨_, _, rfl⟩
  | false =>
    simp only [Bool.false_eq_true, if_false, Step.run_bind]
    cases Step.run (scanSheets addition.theme addition.sheets) processor with
    | mk result after =>
      cases result with
      | error => exact ⟨after.scanned, after.work.log, rfl⟩
      | ok recorded => exact ⟨_, _, rfl⟩

theorem outcome_eq (processor : Processor) (addition : Addition) :
    (Step.run (addTheme addition.sheets addition.theme) processor).1 =
      match (Step.run (scanOnce addition.sheets addition.theme) processor).1 with
      | .ok _ => (processor.add addition).published addition.theme
      | .error failure => .error failure := by
  rw [add_eq, addTheme_eq, Step.run_bind]
  cases Step.run (scanOnce addition.sheets addition.theme) processor with
  | mk result after =>
    cases result with
    | error => rfl
    | ok => exact congrArg Prod.fst (run_publish addition.theme after)

theorem published_of_block? (h : processor.block? addition = some block) :
    (processor.add addition).published addition.theme = .ok (some block) := by
  rw [block?, outcome_eq] at h
  cases hs : (Step.run (scanOnce addition.sheets addition.theme) processor).1 with
  | error =>
    rw [hs] at h
    cases h
  | ok =>
    rw [hs] at h
    dsimp only at h
    cases hp : (processor.add addition).published addition.theme with
    | error =>
      rw [hp] at h
      cases h
    | ok =>
      rw [hp] at h
      exact congrArg Except.ok h

-- ---------------------------------------------------------------------------
-- A theme with one colour
-- ---------------------------------------------------------------------------

def redTheme : Theme := ⟨"demo", "dark", [("fg".toList, .text "red")], none⟩

theorem parse_color : Expression.parse "demo.fg" =
    .ok (.path ["demo".toList, "fg".toList] (Text.strip "demo.fg")) := by
  have hc : Expression.callParts? (Text.strip "demo.fg") = none := by decide +kernel
  have hs : Text.split '.' (Text.strip "demo.fg") = ["demo".toList, "fg".toList] := by decide
  rw [Expression.parse_of_callParts?_eq_none hc, hs]

end Retheme.Processor
