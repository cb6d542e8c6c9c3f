import Retheme.Proofs.Processor.Agree

/-!
# When a processor fails

A marker whose evaluation fails on the way to a value is skipped. What fails a
processor is a value that cannot be written: an evaluation fails exactly when
its expression leads to one, a scan when one of the markers it comes to does,
and adding a theme when one in its sheets does or, if something is published,
when a source of its fonts cannot be shown. None of this happens to data whose
integers all have doubles.
-/

namespace Retheme.Processor

open Step (Succeeds)

variable {theme : Theme} {source : Text} {marker : Sheet.Marker} {markers : List Sheet.Marker}
  {sheets : List Sheet} {processor after : Processor} {value : Value}

-- ---------------------------------------------------------------------------
-- One marker
-- ---------------------------------------------------------------------------

def led (processor : Processor) (site : Site) : Value × Processor :=
  let (value, work) := Expression.led processor.functions site processor.work
  (value, { processor with work })

theorem run_evaluate (expression source : Text) (theme : Theme) (position : Int)
    (processor : Processor) :
    Step.run (evaluate expression theme source position) processor =
      ((processor.led ⟨expression, theme, source, position⟩).1.declared?,
        (processor.led ⟨expression, theme, source, position⟩).2) := by
  simp only [evaluate, Step.run_bind, Step.run_read, onWork, Step.run_within,
    Expression.run_evaluate, led]

theorem succeeds_evaluate_iff {expression : Text} {position : Int} :
    Succeeds (evaluate expression theme source position) processor ↔
      (processor.led ⟨expression, theme, source, position⟩).1.IsWritable := by
  rw [Succeeds, run_evaluate, Value.declared?_isOk_iff]

theorem succeeds_runHooks (hooks : List Hook) (override : Override) (processor : Processor) :
    Succeeds (runHooks theme override hooks) processor := by
  induction hooks generalizing override processor with
  | nil => rfl
  | cons hook hooks ih =>
    rw [runHooks.eq_def]
    dsimp only
    split
    · exact ih _ _
    · exact ih _ _
    · exact Step.succeeds_bind rfl fun _ _ _ => ih _ _

theorem succeeds_scanMarker_iff :
    Succeeds (scanMarker source theme marker) processor ↔
      (processor.led (siteOf source theme marker)).1.IsWritable := by
  rw [← Value.declared?_isOk_iff, scanMarker, Step.succeeds_bind_iff, run_evaluate]
  constructor
  · rintro ⟨result, after, hr, -⟩
    rw [siteOf, (Prod.mk.inj hr).1]
    rfl
  · intro h
    obtain ⟨result, hr⟩ : ∃ result,
        (processor.led (siteOf source theme marker)).1.declared? = .ok result := by
      revert h
      cases (processor.led (siteOf source theme marker)).1.declared? with
      | error =>
        intro h
        cases h
      | ok result => exact fun _ => ⟨result, rfl⟩
    refine ⟨result, _, Prod.ext hr rfl, ?_⟩
    -- Once the value is written nothing fails any more, hooks included.
    cases result with
    | none => rfl
    | some value =>
      dsimp only
      split
      · rfl
      · refine Step.succeeds_bind rfl fun rule _ _ => Step.succeeds_bind rfl fun hooks _ _ => ?_
        exact Step.succeeds_bind (succeeds_runHooks _ _ _) fun _ _ _ => rfl

theorem run_scanMarkers_of_fails
    (h : Expression.Fails processor.functions (siteOf source theme marker) processor.work) :
    Step.run (scanMarkers source theme (marker :: markers)) processor =
      Step.run (scanMarkers source theme markers)
        (processor.led (siteOf source theme marker)).2 := by
  have hv : (processor.led (siteOf source theme marker)).1 = .null := Expression.led_of_fails h
  have he : Step.run (evaluate marker.expression theme source marker.start) processor =
      (.ok none, (processor.led (siteOf source theme marker)).2) := by
    rw [siteOf] at hv
    rw [run_evaluate, hv]
    rfl
  have hm : Step.run (scanMarker source theme marker) processor =
      (.ok false, (processor.led (siteOf source theme marker)).2) := by
    rw [scanMarker, Step.run_bind, he]
    rfl
  rw [scanMarkers, Step.run_bind, hm]
  dsimp only
  rw [Step.run_bind]
  cases Step.run (scanMarkers source theme markers) (processor.led (siteOf source theme marker)).2
    with
  | mk result after =>
    cases result with
    | error => rfl
    | ok count => exact congrArg (fun n => (Except.ok n, after)) (Nat.zero_add count)

-- ---------------------------------------------------------------------------
-- All markers of a sheet
-- ---------------------------------------------------------------------------

/-- A value that one of the markers leads to when the scan comes to it. -/
inductive Comes (source : Text) (theme : Theme) : List Sheet.Marker → Processor → Value → Prop
  | here {marker : Sheet.Marker} {markers : List Sheet.Marker} {processor : Processor} :
      Comes source theme (marker :: markers) processor
        (processor.led (siteOf source theme marker)).1
  | later {marker : Sheet.Marker} {markers : List Sheet.Marker} {processor after : Processor}
      {recorded : Bool} {value : Value}
      (hr : Step.run (scanMarker source theme marker) processor = (.ok recorded, after))
      (h : Comes source theme markers after value) :
      Comes source theme (marker :: markers) processor value

theorem succeeds_scanMarkers_iff :
    Succeeds (scanMarkers source theme markers) processor ↔
      ∀ value, Comes source theme markers processor value → value.IsWritable := by
  induction markers generalizing processor with
  | nil => exact iff_of_true rfl nofun
  | cons marker markers ih =>
    rw [scanMarkers, Step.succeeds_bind_iff]
    constructor
    · rintro ⟨recorded, after, hr, h⟩ value hv
      cases hv with
      | here => exact succeeds_scanMarker_iff.mp (Step.succeeds_of_run hr)
      | later hr' hv =>
        cases hr.symm.trans hr'
        obtain ⟨more, last, hm, -⟩ := Step.succeeds_bind_iff.mp h
        exact ih.mp (Step.succeeds_of_run hm) value hv
    · intro h
      obtain ⟨recorded, hr⟩ := (succeeds_scanMarker_iff.mpr (h _ .here)).run_eq
      refine ⟨recorded, _, hr, Step.succeeds_bind ?_ fun _ _ _ => rfl⟩
      exact ih.mpr fun value hv => h value (.later hr hv)

-- ---------------------------------------------------------------------------
-- Sheets
-- ---------------------------------------------------------------------------

inductive ComesIn (theme : Theme) : List Sheet → Processor → Value → Prop
  | here {sheet : Sheet} {sheets : List Sheet} {processor fetched : Processor} {text : Text}
      {value : Value} (hf : Step.run (fetch sheet) processor = (.ok text, fetched))
      (h : Comes text theme (Sheet.markers text) fetched value) :
      ComesIn theme (sheet :: sheets) processor value
  | later {sheet : Sheet} {sheets : List Sheet} {processor fetched after : Processor} {text : Text}
      {recorded : Nat} {value : Value}
      (hf : Step.run (fetch sheet) processor = (.ok text, fetched))
      (hs : Step.run (scan text theme) fetched = (.ok recorded, after))
      (h : ComesIn theme sheets after value) : ComesIn theme (sheet :: sheets) processor value

theorem scan_nil (theme : Theme) : scan [] theme = pure 0 := by
  rw [scan, Sheet.markers, Sheet.markersFrom]
  rfl

theorem scanSheets_cons (theme : Theme) (sheet : Sheet) (sheets : List Sheet) :
    scanSheets theme (sheet :: sheets) =
      (do
        let recorded ← scan (← fetch sheet) theme
        let more ← scanSheets theme sheets
        return recorded + more) := by
  refine congrArg (fetch sheet >>= ·) (funext fun text => ?_)
  cases text with
  | nil =>
    rw [scan_nil]
    rfl
  | cons => rfl

theorem succeeds_scanSheets_iff :
    Succeeds (scanSheets theme sheets) processor ↔
      ∀ value, ComesIn theme sheets processor value → value.IsWritable := by
  induction sheets generalizing processor with
  | nil => exact iff_of_true rfl nofun
  | cons sheet sheets ih =>
    obtain ⟨log, hf⟩ := exists_run_fetch sheet processor
    rw [scanSheets_cons, Step.succeeds_bind_iff]
    constructor
    · rintro ⟨text, fetched, hf, h⟩ value hv
      obtain ⟨recorded, after, hs, h⟩ := Step.succeeds_bind_iff.mp h
      cases hv with
      | here hf' hv =>
        cases hf.symm.trans hf'
        exact succeeds_scanMarkers_iff.mp (Step.succeeds_of_run hs) value hv
      | later hf' hs' hv =>
        cases hf.symm.trans hf'
        cases hs.symm.trans hs'
        obtain ⟨more, last, hm, -⟩ := Step.succeeds_bind_iff.mp h
        exact ih.mp (Step.succeeds_of_run hm) value hv
    · intro h
      obtain ⟨recorded, hs⟩ := (succeeds_scanMarkers_iff.mpr fun value hv => h value
        (.here hf hv)).run_eq
      refine ⟨sheet.scanned, _, hf, Step.succeeds_bind_iff.mpr ⟨recorded, _, hs, ?_⟩⟩
      exact Step.succeeds_bind (ih.mpr fun value hv => h value (.later hf hs hv)) fun _ _ _ => rfl

theorem fontTexts_isOk_iff (fonts : Entries Value) :
    (fontTexts fonts).isOk = true ↔ ∀ font ∈ fonts, ¬ font.2.HoldsLong := by
  induction fonts with
  | nil => exact iff_of_true rfl nofun
  | cons font fonts ih =>
    obtain ⟨family, source⟩ := font
    rw [List.forall_mem_cons, ← Value.shown_isOk_iff, ← ih, fontTexts]
    cases source.shown <;> cases fontTexts fonts <;>
      simp [bind, Except.bind, pure, Except.pure, Except.isOk, Except.toBool]

-- ---------------------------------------------------------------------------
-- Adding a theme
-- ---------------------------------------------------------------------------

def scanOnce (sheets : List Sheet) (theme : Theme) : Step Processor Unit := do
  let ns ← Step.read Processor.ns
  if (← Step.read id).hasScanned theme.name then
    event (.alreadyScanned theme.name ns)
  else
    let recorded ← scanSheets theme sheets
    Step.update fun processor => { processor with scanned := processor.scanned ++ [theme.name] }
    event (.scanned theme.name ns recorded)

def publish (theme : Theme) : Step Processor (Option Text) := do
  let processor ← Step.read id
  if processor.overrides.isEmpty then return none
  return some (← Step.ofExcept (processor.synthesize (some theme)))

theorem addTheme_eq (sheets : List Sheet) (theme : Theme) :
    addTheme sheets theme = (do scanOnce sheets theme; publish theme) := by
  rw [addTheme, scanOnce]
  simp only [bind_assoc]
  congr 1
  funext ns
  congr 1
  funext processor
  split
  · rfl
  · simp only [bind_assoc]
    rfl

/-- The processor that a theme is published from, but for a note that it was scanned. -/
def settled (sheets : List Sheet) (theme : Theme) (processor : Processor) : Processor :=
  if processor.hasScanned theme.name then processor
  else (Step.run (scanSheets theme sheets) processor).2

theorem succeeds_scanOnce_iff :
    Succeeds (scanOnce sheets theme) processor ↔
      (processor.hasScanned theme.name = false →
        ∀ value, ComesIn theme sheets processor value → value.IsWritable) := by
  rw [← succeeds_scanSheets_iff, Succeeds, scanOnce]
  simp only [Step.run_bind, Step.run_read, id_eq]
  cases processor.hasScanned theme.name with
  | true => exact iff_of_true rfl fun h => absurd h (by decide)
  | false =>
    simp only [Bool.false_eq_true, if_false, forall_const, Succeeds, Step.run_bind]
    cases Step.run (scanSheets theme sheets) processor with
    | mk result after => cases result <;> rfl

theorem overrides_of_run_scanOnce (h : Step.run (scanOnce sheets theme) processor = (.ok (), after)) :
    after.overrides = (processor.settled sheets theme).overrides := by
  revert h
  rw [settled, scanOnce]
  simp only [Step.run_bind, Step.run_read, id_eq]
  cases processor.hasScanned theme.name with
  | true =>
    rintro ⟨⟩
    rfl
  | false =>
    simp only [Bool.false_eq_true, if_false, Step.run_bind]
    cases Step.run (scanSheets theme sheets) processor with
    | mk result last =>
      cases result with
      | error => exact nofun
      | ok count =>
        rintro ⟨⟩
        rfl

theorem succeeds_publish_iff :
    Succeeds (publish theme) processor ↔
      (processor.overrides ≠ [] → ∀ font ∈ theme.fonts.getD [], ¬ font.2.HoldsLong) := by
  rw [← fontTexts_isOk_iff, Succeeds, publish]
  simp only [Step.run_bind, Step.run_read, id_eq]
  cases processor.overrides with
  | nil => exact iff_of_true rfl (absurd rfl)
  | cons =>
    simp only [synthesize, Option.bind_some]
    cases fontTexts (theme.fonts.getD []) <;> simp [Except.isOk, Except.toBool] <;> rfl

theorem succeeds_addTheme_iff :
    Succeeds (addTheme sheets theme) processor ↔
      (processor.hasScanned theme.name = false →
        ∀ value, ComesIn theme sheets processor value → value.IsWritable) ∧
      ((processor.settled sheets theme).overrides ≠ [] →
        ∀ font ∈ theme.fonts.getD [], ¬ font.2.HoldsLong) := by
  rw [addTheme_eq, Step.succeeds_bind_iff, ← succeeds_scanOnce_iff]
  constructor
  · rintro ⟨_, after, hs, hp⟩
    rw [← overrides_of_run_scanOnce hs]
    exact ⟨Step.succeeds_of_run hs, succeeds_publish_iff.mp hp⟩
  · rintro ⟨hs, hp⟩
    obtain ⟨_, hr⟩ := hs.run_eq
    rw [← overrides_of_run_scanOnce hr] at hp
    exact ⟨_, _, hr, succeeds_publish_iff.mpr hp⟩

-- ---------------------------------------------------------------------------
-- Data whose integers all have doubles
-- ---------------------------------------------------------------------------

theorem led_fits (hd : (Value.map theme.data).Fits) (ho : processor.functions.IsOwn)
    (hw : processor.work.Fits) {site : Site} (hs : site.theme = theme) :
    (processor.led site).1.Fits := by
  subst hs
  exact Expression.led_fits hd ho hw

theorem Comes.fits (hd : (Value.map theme.data).Fits) (h : Comes source theme markers processor value)
    (ho : processor.functions.IsOwn) (hw : processor.work.Fits) : value.Fits := by
  induction h with
  | here => exact led_fits hd ho hw rfl
  | @later marker _ processor after _ _ hr _ ih =>
    obtain ⟨-, hl, -⟩ := agree_scanMarker_of_twins (Workspace.stable_fits hd)
      (.refl source theme marker) processor processor (.refl ho hw)
    rw [hr] at hl
    exact ih hl.1 hl.2.1

theorem ComesIn.fits (hd : (Value.map theme.data).Fits) (h : ComesIn theme sheets processor value)
    (ho : processor.functions.IsOwn) (hw : processor.work.Fits) : value.Fits := by
  induction h with
  | @here sheet _ processor _ _ _ hf h =>
    obtain ⟨log, hl⟩ := exists_run_fetch sheet processor
    cases hf.symm.trans hl
    exact h.fits hd ho ⟨hw.locals, hw.globals⟩
  | @later sheet _ processor _ _ text _ _ hf hs _ ih =>
    obtain ⟨log, hl⟩ := exists_run_fetch sheet processor
    cases hf.symm.trans hl
    obtain ⟨-, hl, -⟩ := agree_scan (Workspace.stable_fits hd) sheet.scanned (processor.logged log)
      (processor.logged log) (.refl ho ⟨hw.locals, hw.globals⟩)
    rw [hs] at hl
    exact ih hl.1 hl.2.1

theorem succeeds_of_fits (hd : (Value.map theme.data).Fits)
    (hf : ∀ font ∈ theme.fonts.getD [], font.2.Fits) (ho : processor.functions.IsOwn)
    (hw : processor.work.Fits) :
    (∀ sheets, Succeeds (addTheme sheets theme) processor) ∧
      (∀ source, Succeeds (scan source theme) processor) ∧
      ∀ expression source position, Succeeds (evaluate expression theme source position) processor := by
  refine ⟨fun sheets => succeeds_addTheme_iff.mpr ⟨fun _ value hv => ?_, fun _ font hm => ?_⟩,
    fun source => succeeds_scanMarkers_iff.mpr fun value hv => ?_,
    fun expression source position => succeeds_evaluate_iff.mpr ?_⟩
  · exact (hv.fits hd ho hw).isWritable
  · exact (hf font hm).not_holdsLong
  · exact (hv.fits hd ho hw).isWritable
  · exact (led_fits hd ho hw rfl).isWritable

/-- An operation fails only on a value that it comes to and that cannot be written. Markers whose
evaluation fails on the way there are skipped, and nothing fails on data whose integers all have
doubles. -/
theorem succeeds_iff_writable (theme : Theme) (processor : Processor) :
    (∀ expression source position, Succeeds (evaluate expression theme source position) processor ↔
      (processor.led ⟨expression, theme, source, position⟩).1.IsWritable) ∧
    (∀ source, Succeeds (scan source theme) processor ↔
      ∀ value, Comes source theme (Sheet.markers source) processor value → value.IsWritable) ∧
    (∀ sheets, Succeeds (addTheme sheets theme) processor ↔
      (processor.hasScanned theme.name = false →
        ∀ value, ComesIn theme sheets processor value → value.IsWritable) ∧
      ((processor.settled sheets theme).overrides ≠ [] →
        ∀ font ∈ theme.fonts.getD [], ¬ font.2.HoldsLong)) ∧
    (∀ source marker markers,
      Expression.Fails processor.functions (siteOf source theme marker) processor.work →
        Step.run (scanMarkers source theme (marker :: markers)) processor =
          Step.run (scanMarkers source theme markers)
            (processor.led (siteOf source theme marker)).2) ∧
    ((Value.map theme.data).Fits → (∀ font ∈ theme.fonts.getD [], font.2.Fits) →
      processor.functions.IsOwn → processor.work.Fits →
        (∀ sheets, Succeeds (addTheme sheets theme) processor) ∧
          (∀ source, Succeeds (scan source theme) processor) ∧
          ∀ expression source position,
            Succeeds (evaluate expression theme source position) processor) :=
  ⟨fun _ _ _ => succeeds_evaluate_iff, fun _ => succeeds_scanMarkers_iff,
    fun _ => succeeds_addTheme_iff, fun _ _ _ => run_scanMarkers_of_fails, succeeds_of_fits⟩

def numbered (n : Int) : Theme := ⟨"demo", "dark", [("n".toList, .int n)], none⟩

def numberedSheet : Sheet := ⟨"a.css", [], .ok "b \x7b /*![demo.n]*/ c: d; \x7d"⟩

theorem succeeds_iff_writable_five :
    Succeeds (addTheme [numberedSheet] (numbered 5)) (initial "demo" []) := by
  have hd : (Value.map (numbered 5).data).Fits := by
    intro n ho
    obtain ⟨field, hm, ho⟩ := Value.occurs_map_iff.mp ho
    obtain rfl := List.mem_singleton.mp hm
    cases ho
    have hr := Binary64.le_range
    omega
  exact ((succeeds_iff_writable (numbered 5) (initial "demo" [])).2.2.2.2 hd nofun
    Registry.initial_isOwn ⟨nofun, nofun⟩).1 [numberedSheet]

/-- A power of two beyond the doubles cannot be written. -/
theorem not_succeeds_evaluate :
    ¬ Succeeds (evaluate "demo.n" (numbered (2 ^ 1024)) [] 0) (initial "demo" []) := by
  have hc : Expression.callParts? (Text.strip "demo.n") = none := by decide +kernel
  have hs : Text.split '.' (Text.strip "demo.n") = ["demo".toList, "n".toList] := by decide
  have hp := Expression.parse_of_callParts?_eq_none hc
  rw [hs] at hp
  have hl (n : Int) : ((initial "demo" []).led ⟨"demo.n", numbered n, [], 0⟩).1 = .int n := by
    rw [led, Expression.led_path hp]
    rfl
  rw [succeeds_evaluate_iff, hl]
  have hr : Binary64.range ≤ (2 ^ 1024 : Int).natAbs := by
    rw [Int.natAbs_pow]
    exact Nat.sub_le _ _
  exact Nat.not_lt_of_le hr

end Retheme.Processor
