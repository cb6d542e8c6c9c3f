import Mathlib.Data.List.Forall2
import Mathlib.Data.List.ReduceOption
import Retheme.Processor
import Retheme.Proofs.Override.Grouping

/-!
# Scanning with paths alone

Without hooks and custom scopes a marker of a path leaves the processor as it
is, or with one more override under the standard scope of the rule around the
marker. What one marker does is lifted to all markers of a sheet.
-/

namespace Retheme

def Sheet.scanned (sheet : Sheet) : Text :=
  match sheet.content with
  | .ok text => text
  | .error _ => []

namespace Processor

structure Quiet (processor : Processor) : Prop where
  hooks : processor.hooks = []
  scopes : processor.work.scopes = []

def recorded (processor : Processor) (override : Override) : Processor :=
  { processor with overrides := processor.overrides.record override }

/-- What a marker does to any quiet processor: it gives an override or nothing. -/
def Gives (source : Text) (theme : Theme) (marker : Sheet.Marker) (result : Option Override) : Prop :=
  ∀ processor, Quiet processor →
    Step.run (scanMarker source theme marker) processor =
      (.ok result.isSome, result.elim processor processor.recorded)

variable {source value : Text} {theme : Theme} {marker : Sheet.Marker} {markers : List Sheet.Marker}
  {results : List (Option Override)} {processor : Processor}

theorem Quiet.recorded (h : Quiet processor) (override : Override) :
    Quiet (processor.recorded override) :=
  ⟨h.hooks, h.scopes⟩

-- ---------------------------------------------------------------------------
-- All markers of a sheet
-- ---------------------------------------------------------------------------

theorem run_scanMarkers (h : List.Forall₂ (Gives source theme) markers results)
    (hq : Quiet processor) :
    Step.run (scanMarkers source theme markers) processor =
      (.ok results.reduceOption.length, results.reduceOption.foldl recorded processor) := by
  induction h generalizing processor with
  | nil => rfl
  | @cons marker result markers results hm _ ih =>
    rw [scanMarkers, Step.run_bind, hm processor hq]
    cases result with
    | none =>
      rw [Option.elim_none, List.reduceOption_cons_of_none]
      simp only [Step.run_bind, ih hq, Step.run_pure]
      simp
    | some override =>
      rw [Option.elim_some, List.reduceOption_cons_of_some]
      simp only [Step.run_bind, ih (hq.recorded override), Step.run_pure]
      simp [Nat.add_comm]

theorem foldl_recorded (overrides : List Override) (processor : Processor) :
    overrides.foldl recorded processor =
      { processor with
        overrides := overrides.foldl (fun store override => store.record override)
          processor.overrides } := by
  induction overrides generalizing processor with
  | nil => rfl
  | cons override rest ih => rw [List.foldl_cons, ih, List.foldl_cons, recorded]

-- ---------------------------------------------------------------------------
-- One marker
-- ---------------------------------------------------------------------------

theorem gives_none
    (he : ∀ processor, Step.run (evaluate marker.expression theme source marker.start) processor =
      (.ok none, processor)) : Gives source theme marker none := by
  intro processor hq
  rw [scanMarker, Step.run_bind, he]
  rfl

theorem gives_some
    (he : ∀ processor, Step.run (evaluate marker.expression theme source marker.start) processor =
      (.ok (some value), processor))
    (hv : (Sheet.contextAt source marker.start).isValid = true) :
    Gives source theme marker
      (some
        { rule := Scope.standard (Sheet.contextAt source marker.start).rule theme.name
          prop := (Sheet.contextAt source marker.start).prop
          value
          key := marker.key
          important := (Sheet.contextAt source marker.start).important }) := by
  intro processor hq
  have hs : processor.work.scopes.scope (Sheet.contextAt source marker.start).rule theme.name =
      Scope.standard (Sheet.contextAt source marker.start).rule theme.name := by
    rw [hq.scopes]
    rfl
  have hh (override : Override) :
      Step.run (runHooks theme override processor.hooks) processor = (.ok override, processor) := by
    rw [hq.hooks]
    rfl
  rw [scanMarker, Step.run_bind, he]
  simp only [hv, Bool.not_true, Bool.false_eq_true, if_false, Step.run_bind, Step.run_read, hs, hh,
    Step.run_pure, Step.run_update]
  rfl

theorem run_evaluate_path {expression text : Text} {segments : List Text}
    (hp : Expression.parse expression = .ok (.path segments text)) (position : Int)
    (processor : Processor) :
    Step.run (evaluate expression theme source position) processor =
      ((theme.resolve? segments).elim (.ok none) Value.declared?, processor) := by
  have hw : Step.run (Expression.evaluate processor.functions
      ⟨expression, theme, source, position⟩) processor.work =
        ((theme.resolve? segments).elim (.ok none) Value.declared?, processor.work) := by
    rw [Expression.evaluate, hp]
    cases hr : theme.resolve? segments with
    | none => simp only [hr]; rfl
    | some value => simp only [hr]; rfl
  simp only [evaluate, Step.run_bind, Step.run_read, onWork, Step.run_within, hw]

-- ---------------------------------------------------------------------------
-- Adding a theme
-- ---------------------------------------------------------------------------

def logged (processor : Processor) (log : List Event) : Processor :=
  { processor with work := { processor.work with log } }

theorem Quiet.logged (h : Quiet processor) (log : List Event) : Quiet (processor.logged log) :=
  ⟨h.hooks, h.scopes⟩

theorem run_event (report : Event) (processor : Processor) :
    Step.run (event report) processor =
      (.ok (), processor.logged (processor.work.log ++ [report])) := rfl

theorem run_events (reports : List Event) (processor : Processor) :
    ∃ log, Step.run (reports.forM event) processor = (.ok (), processor.logged log) := by
  induction reports generalizing processor with
  | nil => exact ⟨processor.work.log, rfl⟩
  | cons report reports ih =>
    obtain ⟨log, hl⟩ := ih (processor.logged (processor.work.log ++ [report]))
    refine ⟨log, ?_⟩
    change Step.run (event report >>= fun _ => reports.forM event) processor = _
    rw [Step.run_bind, run_event]
    exact hl

theorem exists_run_fetch (sheet : Sheet) (processor : Processor) :
    ∃ log, Step.run (fetch sheet) processor = (.ok sheet.scanned, processor.logged log) := by
  obtain ⟨log, hl⟩ := run_events sheet.reports processor
  rw [fetch, Step.run_bind, hl, Sheet.scanned]
  dsimp only
  cases sheet.content with
  | ok text => exact ⟨log, rfl⟩
  | error fault => cases fault <;> exact ⟨_, rfl⟩

theorem run_scanSheets (h : List.Forall₂ (Gives source theme) (Sheet.markers source) results)
    (hq : Quiet processor) (href : Text) (reports : List Event) :
    ∃ log count, Step.run (scanSheets theme [⟨href, reports, .ok source⟩]) processor =
      (.ok count, results.reduceOption.foldl recorded (processor.logged log)) := by
  obtain ⟨log, hf⟩ := exists_run_fetch ⟨href, reports, .ok source⟩ processor
  refine ⟨log, results.reduceOption.length, ?_⟩
  simp only [scanSheets, Step.run_bind, hf, Sheet.scanned]
  cases source with
  | nil =>
    -- An empty text is not scanned, and has no markers either.
    have hm : Sheet.markers [] = [] := by
      rw [Sheet.markers, Sheet.markersFrom]
      rfl
    rw [hm] at h
    cases h
    rfl
  | cons c rest =>
    simp only [List.isEmpty_cons, Bool.false_eq_true, if_false]
    rw [Step.run_bind, scan, run_scanMarkers h (hq.logged log)]
    rfl

/-- A processor that has seen nothing publishes the overrides of all markers, by their rules, and
the fonts of the theme. -/
theorem run_addTheme (h : List.Forall₂ (Gives source theme) (Sheet.markers source) results)
    (ns href : Text) (reports : List Event) :
    (Step.run (addTheme [⟨href, reports, .ok source⟩] theme) (initial ns [])).1 =
      if results.reduceOption.isEmpty then .ok none
      else (fontTexts (theme.fonts.getD [])).map fun fonts =>
        some (OverrideStore.render fonts (.grouped results.reduceOption)) := by
  have hq : Quiet (initial ns []) := ⟨rfl, rfl⟩
  obtain ⟨log, count, hs⟩ := run_scanSheets h hq href reports
  have ho : (results.reduceOption.foldl recorded ((initial ns []).logged log)).overrides =
      .grouped results.reduceOption := by
    rw [foldl_recorded]
    exact OverrideStore.foldl_record results.reduceOption
  have hn : ¬ (id (initial ns [])).hasScanned theme.name = true := by
    simp [initial, hasScanned]
  simp only [addTheme, Step.run_bind, Step.run_read, if_neg hn, hs, Step.run_update, run_event]
  simp only [id_eq, logged] at ho ⊢
  simp only [synthesize, ho, OverrideStore.isEmpty_grouped]
  split
  · rfl
  · cases hf : fontTexts (theme.fonts.getD []) <;> simp only [Option.bind_some, hf] <;> rfl

end Processor

end Retheme
