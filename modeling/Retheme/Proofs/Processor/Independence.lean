import Retheme.Proofs.Expression.Pure
import Retheme.Proofs.Processor.Addition
import Retheme.Proofs.Scope.Owner

/-!
# Themes that do not interfere

Pure markers give each theme its overrides, whatever was added before: what a
marker gives is what it gives an unused processor. The overrides of two themes
stand under different scoped names, so that in the store of both each of them
has what it has alone, in whatever order they are added.
-/

namespace Retheme

namespace Processor

open Step (Succeeds)

variable {start : Processor} {source : Text} {theme other : Theme} {marker : Sheet.Marker}
  {markers : List Sheet.Marker} {sheets : List Sheet}

def given? (start : Processor) (source : Text) (theme : Theme) (marker : Sheet.Marker) :
    Option Override :=
  match (start.led (siteOf source theme marker)).1.declared? with
  | .ok (some value) =>
    if (Sheet.contextAt source marker.start).isValid then
      some (start.overrideOf source theme marker value)
    else none
  | _ => none

def gathered (start : Processor) (theme : Theme) (sheets : List Sheet) : List Override :=
  sheets.flatMap fun sheet =>
    (Sheet.markers sheet.scanned).filterMap (start.given? sheet.scanned theme)

/-- A processor that went on from another: themes were scanned, overrides recorded and events
reported. -/
def onward (start : Processor) (scanned : List Text) (records : List Override) (log : List Event) :
    Processor :=
  { start with
    scanned
    overrides := .grouped records
    work := { start.work with log } }

/-- The expression of a marker is pure and evaluated without a failure, and a marker in an at-rule
stands under selectors. -/
structure IsSafe (start : Processor) (source : Text) (theme : Theme) (marker : Sheet.Marker) :
    Prop where
  pure : Expression.isPure start.functions marker.expression = true
  succeeds : Succeeds (evaluate marker.expression theme source marker.start) start
  scopable : (Sheet.contextAt source marker.start).isValid = true →
    Scope.IsScopable (Sheet.contextAt source marker.start).rule

structure Unused (processor : Processor) : Prop where
  functions : processor.functions = .initial
  hooks : processor.hooks = []
  scopes : processor.work.scopes = []
  overrides : processor.overrides = []
  scanned : processor.scanned = []

-- ---------------------------------------------------------------------------
-- Going on
-- ---------------------------------------------------------------------------

theorem led_onward (hf : start.functions.IsOwn) (hs : start.IsSafe source theme marker)
    (scanned : List Text) (records : List Override) (log : List Event) :
    ∃ log', (start.onward scanned records log).led (siteOf source theme marker) =
      ((start.led (siteOf source theme marker)).1, start.onward scanned records log') := by
  obtain ⟨log', hl⟩ := @Expression.exists_led_eq _ (siteOf source theme marker)
    { start.work with log } hs.pure
  have hv := Expression.led_of_reported hf (siteOf source theme marker) start.work log
  refine ⟨log', Prod.ext hv ?_⟩
  show { start.onward scanned records log with
    work := (Expression.led start.functions (siteOf source theme marker)
      { start.work with log }).2 } = _
  rw [hl]
  rfl

theorem run_scanMarker_onward (hf : start.functions.IsOwn) (hh : start.hooks = [])
    (hs : start.IsSafe source theme marker) (scanned : List Text) (records : List Override)
    (log : List Event) :
    ∃ log', Step.run (scanMarker source theme marker) (start.onward scanned records log) =
      (.ok (start.given? source theme marker).isSome,
        start.onward scanned (records ++ (start.given? source theme marker).toList) log') := by
  obtain ⟨log', hl⟩ := led_onward hf hs scanned records log
  obtain ⟨result, hr⟩ := hs.succeeds.run_eq
  rw [run_evaluate] at hr
  have hd : (start.led (siteOf source theme marker)).1.declared? = .ok result := congrArg Prod.fst hr
  have hrun := @run_scanMarker (start.onward scanned records log) hh source theme marker
  rw [hrun, hl, given?]
  dsimp only
  rw [hd]
  cases result with
  | none => exact ⟨log', by simp⟩
  | some value =>
    dsimp only
    cases (Sheet.contextAt source marker.start).isValid with
    | false => exact ⟨_, by simp; rfl⟩
    | true =>
      refine ⟨log', Prod.ext rfl ?_⟩
      show recorded _ _ = _
      rw [recorded, onward, OverrideStore.record_grouped]
      rfl

theorem run_scanMarkers_onward (hf : start.functions.IsOwn) (hh : start.hooks = [])
    (hs : ∀ marker ∈ markers, start.IsSafe source theme marker) (scanned : List Text)
    (records : List Override) (log : List Event) :
    ∃ count log', Step.run (scanMarkers source theme markers) (start.onward scanned records log) =
      (.ok count,
        start.onward scanned (records ++ markers.filterMap (start.given? source theme)) log') := by
  induction markers generalizing records log with
  | nil => exact ⟨0, log, by rw [List.filterMap_nil, List.append_nil]; rfl⟩
  | cons marker markers ih =>
    obtain ⟨middle, hm⟩ := run_scanMarker_onward hf hh (hs marker List.mem_cons_self) scanned
      records log
    obtain ⟨count, last, hr⟩ := ih (fun other ho => hs other (List.mem_cons_of_mem _ ho))
      (records ++ (start.given? source theme marker).toList) middle
    have hg : records ++ (marker :: markers).filterMap (start.given? source theme) =
        records ++ (start.given? source theme marker).toList ++
          markers.filterMap (start.given? source theme) := by
      rw [List.append_assoc, List.filterMap_cons]
      cases start.given? source theme marker <;> rfl
    rw [hg, scanMarkers, Step.run_bind, hm]
    dsimp only
    rw [Step.run_bind, hr]
    exact ⟨_, last, rfl⟩

theorem run_scanSheets_onward (hf : start.functions.IsOwn) (hh : start.hooks = [])
    (hs : ∀ sheet ∈ sheets, ∀ marker ∈ Sheet.markers sheet.scanned,
      start.IsSafe sheet.scanned theme marker) (scanned : List Text) (records : List Override)
    (log : List Event) :
    ∃ count log', Step.run (scanSheets theme sheets) (start.onward scanned records log) =
      (.ok count, start.onward scanned (records ++ start.gathered theme sheets) log') := by
  induction sheets generalizing records log with
  | nil => exact ⟨0, log, by rw [gathered, List.flatMap_nil, List.append_nil]; rfl⟩
  | cons sheet sheets ih =>
    obtain ⟨fetched, hfetch⟩ := exists_run_fetch sheet (start.onward scanned records log)
    obtain ⟨count, middle, hm⟩ := run_scanMarkers_onward hf hh (hs sheet List.mem_cons_self) scanned
      records fetched
    obtain ⟨more, last, hr⟩ := ih (fun other ho => hs other (List.mem_cons_of_mem _ ho))
      (records ++ (Sheet.markers sheet.scanned).filterMap (start.given? sheet.scanned theme)) middle
    have hg : records ++ start.gathered theme (sheet :: sheets) =
        records ++ (Sheet.markers sheet.scanned).filterMap (start.given? sheet.scanned theme) ++
          start.gathered theme sheets := by
      rw [gathered, List.flatMap_cons, List.append_assoc, gathered]
    rw [hg, scanSheets_cons, Step.run_bind, hfetch]
    dsimp only
    rw [Step.run_bind, scan]
    have hlogged : (start.onward scanned records log).logged fetched =
        start.onward scanned records fetched := rfl
    rw [hlogged, hm]
    dsimp only
    rw [Step.run_bind, hr]
    exact ⟨_, last, rfl⟩

/-- Adding a theme records what its markers give an unused processor, and publishes it with all
that was recorded before. -/
theorem run_addTheme_onward (hf : start.functions.IsOwn) (hh : start.hooks = [])
    (hs : ∀ sheet ∈ sheets, ∀ marker ∈ Sheet.markers sheet.scanned,
      start.IsSafe sheet.scanned theme marker) {scanned : List Text} (hn : theme.name ∉ scanned)
    (records : List Override) (log : List Event) :
    ∃ log', Step.run (addTheme sheets theme) (start.onward scanned records log) =
      let added :=
        start.onward (scanned ++ [theme.name]) (records ++ start.gathered theme sheets) log'
      (added.published theme, added) := by
  obtain ⟨count, last, hr⟩ := run_scanSheets_onward hf hh hs scanned records log
  have hscanned : ¬ (start.onward scanned records log).hasScanned theme.name = true := by
    simpa [hasScanned, onward] using hn
  rw [addTheme_eq, scanOnce]
  simp only [Step.run_bind, Step.run_read, id_eq, if_neg hscanned, hr, Step.run_update, run_event]
  exact ⟨_, run_publish theme _⟩

theorem add_onward (hf : start.functions.IsOwn) (hh : start.hooks = [])
    (hs : ∀ sheet ∈ sheets, ∀ marker ∈ Sheet.markers sheet.scanned,
      start.IsSafe sheet.scanned theme marker) {scanned : List Text} (hn : theme.name ∉ scanned)
    (records : List Override) (log : List Event) :
    ∃ log', (start.onward scanned records log).add ⟨sheets, theme⟩ =
      start.onward (scanned ++ [theme.name]) (records ++ start.gathered theme sheets) log' := by
  obtain ⟨log', h⟩ := run_addTheme_onward hf hh hs hn records log
  exact ⟨log', congrArg Prod.snd h⟩

-- ---------------------------------------------------------------------------
-- Two themes
-- ---------------------------------------------------------------------------

theorem owns_of_mem_gathered (hc : start.work.scopes = [])
    (hs : ∀ sheet ∈ sheets, ∀ marker ∈ Sheet.markers sheet.scanned,
      start.IsSafe sheet.scanned theme marker) {override : Override}
    (hm : override ∈ start.gathered theme sheets) : Scope.Owns theme.name override.rule := by
  obtain ⟨sheet, hsheet, hm⟩ := List.mem_flatMap.mp hm
  obtain ⟨marker, hmarker, hg⟩ := List.mem_filterMap.mp hm
  rw [given?] at hg
  split at hg
  · split_ifs at hg with hv
    cases hg
    refine ⟨_, (hs sheet hsheet marker hmarker).scopable hv, ?_⟩
    rw [overrideOf, hc]
    rfl
  · cases hg

theorem filter_gathered (hc : start.work.scopes = [])
    (hs : ∀ sheet ∈ sheets, ∀ marker ∈ Sheet.markers sheet.scanned,
      start.IsSafe sheet.scanned theme marker) {rule : Text} (hn : ¬ Scope.Owns theme.name rule) :
    (start.gathered theme sheets).filter (fun override => override.rule = rule) = [] := by
  rw [List.filter_eq_nil_iff]
  rintro override hm he
  exact hn (of_decide_eq_true he ▸ owns_of_mem_gathered hc hs hm)

theorem Unused.isOwn (hu : start.Unused) : start.functions.IsOwn :=
  hu.functions ▸ Registry.initial_isOwn

theorem Unused.eq_onward (hu : start.Unused) : start = start.onward [] [] start.work.log := by
  obtain ⟨ns, functions, hooks, work, overrides, scanned⟩ := start
  obtain rfl : overrides = [] := hu.overrides
  obtain rfl : scanned = [] := hu.scanned
  rfl

theorem Unused.ofRule_add (hu : start.Unused)
    (hs : ∀ sheet ∈ sheets, ∀ marker ∈ Sheet.markers sheet.scanned,
      start.IsSafe sheet.scanned theme marker) (rule : Text) :
    (start.add ⟨sheets, theme⟩).overrides.ofRule rule =
      (start.gathered theme sheets).filter fun override => override.rule = rule := by
  obtain ⟨log, ha⟩ := add_onward hu.isOwn hu.hooks hs (List.not_mem_nil) [] start.work.log
  rw [← hu.eq_onward] at ha
  rw [ha]
  exact OverrideStore.ofRule_grouped rule _

theorem Unused.ofRule_addAll (hu : start.Unused)
    (hs : ∀ sheet ∈ sheets, ∀ marker ∈ Sheet.markers sheet.scanned,
      start.IsSafe sheet.scanned theme marker ∧ start.IsSafe sheet.scanned other marker)
    (hne : theme.name ≠ other.name) (rule : Text) :
    (start.addAll [⟨sheets, theme⟩, ⟨sheets, other⟩]).overrides.ofRule rule =
      (start.gathered theme sheets).filter (fun override => override.rule = rule) ++
        (start.gathered other sheets).filter fun override => override.rule = rule := by
  obtain ⟨log, ha⟩ := add_onward hu.isOwn hu.hooks
    (fun sheet hsheet marker hm => (hs sheet hsheet marker hm).1) List.not_mem_nil [] start.work.log
  have hn : other.name ∉ [] ++ [theme.name] := by simpa using hne.symm
  obtain ⟨last, hb⟩ := add_onward hu.isOwn hu.hooks
    (fun sheet hsheet marker hm => (hs sheet hsheet marker hm).2) hn
    ([] ++ start.gathered theme sheets) log
  rw [← hu.eq_onward] at ha
  rw [addAll, List.foldl_cons, List.foldl_cons, List.foldl_nil, ha, hb, ← List.filter_append]
  exact OverrideStore.ofRule_grouped rule _

/-- Under every scoped name the store of two themes holds the same overrides in whatever order the
themes are added: those that the theme that owns the name has alone. No name has two owners. -/
theorem themes_independent (hu : start.Unused) (hne : theme.name ≠ other.name)
    (ht : ' ' ∉ theme.name) (ho : ' ' ∉ other.name)
    (hs : ∀ sheet ∈ sheets, ∀ marker ∈ Sheet.markers sheet.scanned,
      start.IsSafe sheet.scanned theme marker ∧ start.IsSafe sheet.scanned other marker)
    (rule : Text) :
    let both := (start.addAll [⟨sheets, theme⟩, ⟨sheets, other⟩]).overrides.ofRule rule
    both = (start.addAll [⟨sheets, other⟩, ⟨sheets, theme⟩]).overrides.ofRule rule ∧
      (Scope.Owns theme.name rule → both = (start.add ⟨sheets, theme⟩).overrides.ofRule rule) ∧
      (Scope.Owns other.name rule → both = (start.add ⟨sheets, other⟩).overrides.ofRule rule) ∧
      (both ≠ [] → Scope.Owns theme.name rule ∨ Scope.Owns other.name rule) ∧
      ¬ (Scope.Owns theme.name rule ∧ Scope.Owns other.name rule) := by
  have htheme := fun sheet hsheet marker hm => (hs sheet hsheet marker hm).1
  have hother := fun sheet hsheet marker hm => (hs sheet hsheet marker hm).2
  have hone : ¬ (Scope.Owns theme.name rule ∧ Scope.Owns other.name rule) :=
    fun h => hne (h.1.eq h.2 ht ho)
  have hnone : ¬ Scope.Owns theme.name rule →
      (start.gathered theme sheets).filter (fun override => override.rule = rule) = [] :=
    filter_gathered hu.scopes htheme
  have hnone' : ¬ Scope.Owns other.name rule →
      (start.gathered other sheets).filter (fun override => override.rule = rule) = [] :=
    filter_gathered hu.scopes hother
  -- The overrides under the rule are those of one theme and then those of the other, of which one
  -- part is empty.
  dsimp only
  rw [hu.ofRule_addAll hs hne, hu.ofRule_add htheme, hu.ofRule_add hother,
    hu.ofRule_addAll (fun sheet hsheet marker hm => (hs sheet hsheet marker hm).symm) hne.symm]
  refine ⟨?_, fun h => ?_, fun h => ?_, fun h => ?_, hone⟩
  · by_cases h : Scope.Owns theme.name rule
    · rw [hnone' fun h' => hone ⟨h, h'⟩, List.append_nil, List.nil_append]
    · rw [hnone h, List.append_nil, List.nil_append]
  · rw [hnone' fun h' => hone ⟨h, h'⟩, List.append_nil]
  · rw [hnone fun h' => hone ⟨h', h⟩, List.nil_append]
  · by_contra hn
    rw [not_or] at hn
    rw [hnone hn.1, hnone' hn.2] at h
    exact h rfl

def colorSheet : Text := ".a \x7b /*![demo.fg]*/ color: black; \x7d"

def whiteTheme : Theme := ⟨"demo", "light", [("fg".toList, .text "white")], none⟩

theorem markers_colorSheet : Sheet.markers colorSheet = [⟨"demo.fg".toList, 5, 19⟩] := by
  cbv

def colorSheets : List Sheet := [⟨"a.css", [], .ok colorSheet⟩]

theorem isSafe_colorSheet {value : Text}
    (hr : theme.resolve? ["demo".toList, "fg".toList] = some (.text value)) :
    ∀ marker ∈ Sheet.markers colorSheet, (initial "demo" []).IsSafe colorSheet theme marker := by
  rw [markers_colorSheet]
  intro marker hm
  obtain rfl := List.mem_singleton.mp hm
  refine ⟨?_, ?_, fun _ => by decide +kernel⟩
  · rw [Expression.isPure, parse_color]
  · rw [Succeeds, run_evaluate_path parse_color, hr]
    rfl

theorem gathered_colorSheets {value : Text}
    (hr : theme.resolve? ["demo".toList, "fg".toList] = some (.text value)) :
    (initial "demo" []).gathered theme colorSheets =
      [⟨Scope.standard ".a" theme.name, "color", value, "fg", false⟩] := by
  have hc : Sheet.contextAt colorSheet 5 = ⟨"color", ".a", false⟩ := by decide +kernel
  have hk : Sheet.Marker.key ⟨"demo.fg".toList, 5, 19⟩ = "fg".toList := by decide
  have hg : (initial "demo" []).given? colorSheet theme ⟨"demo.fg".toList, 5, 19⟩ =
      some ⟨Scope.standard ".a" theme.name, "color", value, "fg", false⟩ := by
    rw [given?, siteOf, led, Expression.led_path parse_color, hr]
    simp only [Option.getD_some, Value.declared?, Value.shown, Except.map, overrideOf, hc, hk]
    rfl
  show (Sheet.markers colorSheet).filterMap ((initial "demo" []).given? colorSheet theme) ++ [] = _
  rw [markers_colorSheet, List.filterMap_cons, hg]
  rfl

theorem themes_independent_color :
    let sheets : List Sheet := [⟨"a.css", [], .ok colorSheet⟩]
    let dark : Addition := ⟨sheets, redTheme⟩
    let light : Addition := ⟨sheets, whiteTheme⟩
    (initial "demo" []).Unused ∧
      ((initial "demo" []).addAll [dark, light]).overrides.ofRule ".dark .a" =
        [⟨".dark .a", "color", "red", "fg", false⟩] ∧
      ((initial "demo" []).addAll [light, dark]).overrides.ofRule ".dark .a" =
        [⟨".dark .a", "color", "red", "fg", false⟩] := by
  intro sheets dark light
  have hu : (initial "demo" []).Unused := ⟨rfl, rfl, rfl, rfl, rfl⟩
  have hs : ∀ sheet ∈ sheets, ∀ marker ∈ Sheet.markers sheet.scanned,
      (initial "demo" []).IsSafe sheet.scanned redTheme marker ∧
        (initial "demo" []).IsSafe sheet.scanned whiteTheme marker := by
    intro sheet hsheet
    obtain rfl := List.mem_singleton.mp hsheet
    exact fun marker hm => ⟨isSafe_colorSheet rfl marker hm, isSafe_colorSheet rfl marker hm⟩
  have halone : ((initial "demo" []).add dark).overrides.ofRule ".dark .a" =
      [⟨".dark .a", "color", "red", "fg", false⟩] := by
    have hgathered : (initial "demo" []).gathered redTheme sheets =
        [⟨Scope.standard ".a" redTheme.name, "color", "red", "fg", false⟩] :=
      gathered_colorSheets rfl
    rw [hu.ofRule_add fun sheet hsheet marker hm => (hs sheet hsheet marker hm).1, hgathered]
    decide
  have howns : Scope.Owns redTheme.name ".dark .a" := ⟨".a", by decide, by decide⟩
  obtain ⟨hboth, hdark, -⟩ := themes_independent hu (by decide) (by decide) (by decide) hs ".dark .a"
  rw [hdark howns, halone] at hboth
  exact ⟨hu, (hdark howns).trans halone, hboth.symm⟩

end Processor

end Retheme
