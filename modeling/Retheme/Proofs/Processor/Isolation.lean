import Retheme.Proofs.Processor.Registration
import Retheme.Proofs.Scope.ThemeClass

/-!
# Overrides stay with their theme

Every override that a scan records is scoped by what the calls up to its marker
registered for its rule. Where no call registered a custom scope, the standard
one puts the class of the theme into every selector. Otherwise the mode and the
selector of the last such call say where the class stands, if the selector
occurs in the rule at all.
-/

namespace Retheme

/-- What a rule is named under a theme behind the calls of a history. -/
inductive ScopedBy (theme : Text) (history : List Happening) (rule name : Text) : Prop
  | standard
      (hnone : ∀ happening ∈ history, happening.scoped? theme rule = none)
      (hname : name = Scope.standard rule theme)
      (hcarry : ∀ selector ∈ Scope.selectors name, Scope.Carries theme selector)
  | custom {front back : List Happening} {call : Call} {mode : ScopeMode} {selector : Text}
      (hlast : history = front ++ .apply call :: back)
      (hback : ∀ happening ∈ back, happening.scoped? theme rule = none)
      (hcall : call.Registers theme rule mode selector)
      (hname : Scope.IsRewritten mode theme rule selector name)

def Workspace.joined (work : Workspace) (theme rule selector : Text) : Workspace :=
  { work with
    scopes := work.scopes.register theme rule (Scope.custom .joined rule selector theme)
    log := work.log ++ [.scopeRegistered theme rule (Scope.custom .joined rule selector theme)] }

theorem Workspace.run_setRuleScope {site : Site} {rule selector : Text} {work : Workspace}
    (hr : Sheet.ruleNameAt site.source (Sheet.offset site.source site.position) = rule)
    (hn : rule ≠ []) :
    Step.run (setRuleScope site [.text selector]) work =
      (.ok .null, work.joined site.theme.name rule selector) := by
  have he : rule.isEmpty = false := by simpa using hn
  rw [setRuleScope.eq_def]
  simp only [Function.argument, List.getD_cons_zero, hr, he, Bool.false_eq_true, if_false]
  rfl

theorem Expression.led_ruleScope {functions : Registry} {work : Workspace}
    {expression name selector text source rule : Text} {theme : Theme} {position : Int}
    (hp : parse expression = .ok (.call name [.literal selector] text))
    (hn : Entries.get? name functions = some .ruleScope)
    (hr : Sheet.ruleNameAt source (Sheet.offset source position) = rule) (hne : rule ≠ []) :
    led functions ⟨expression, theme, source, position⟩ work =
      (.null, work.joined theme.name rule selector) := by
  have ha : Step.run (resolveAll functions ⟨expression, theme, source, position⟩
      [.literal selector]) work = (.ok [.text selector], work) := by
    rw [resolveAll, resolve, resolveAll]
    rfl
  have hc : Step.run (evaluateCall functions .ruleScope ⟨expression, theme, source, position⟩ name
      [.literal selector] text) work = (.ok .null, work.joined theme.name rule selector) := by
    have hs := @Workspace.run_setRuleScope ⟨text, theme, source, position⟩ rule selector work hr hne
    rw [evaluateCall, Step.run_orElse, Step.run_bind, ha]
    dsimp only [Function.apply]
    rw [hs]
  rw [led, lead, hp]
  simp only [hn]
  rw [hc]
  rfl

namespace Processor

variable {theme : Theme} {source : Text} {marker : Sheet.Marker} {processor : Processor}
  {history : List Happening}

/-- The custom scopes of a theme are those that the calls of a history leave, and no hook changes
the rule of an override. -/
structure Reflects (theme : Theme) (history : List Happening) (processor : Processor) : Prop where
  hooks : ∀ hook ∈ processor.hooks, ∀ override, (hook theme override).1.rule = override.rule
  scopes : ∀ rule, processor.work.scopes.registered? theme.name rule =
    lastScope? theme.name rule history

theorem reflects_initial (theme : Theme) (ns : Text) : Reflects theme [] (initial ns []) :=
  ⟨nofun, fun _ => rfl⟩

theorem Reflects.led (hr : Reflects theme history processor) (source : Text) (other : Theme)
    (marker : Sheet.Marker) :
    Reflects theme (history ++ traceAt source other marker processor)
      (processor.led (siteOf source other marker)).2 where
  hooks := hr.hooks
  scopes rule := by
    rw [registered?_led, lastScope?_append, hr.scopes rule]

theorem hooks_scanMarker (source : Text) (theme : Theme) (marker : Sheet.Marker)
    (processor : Processor) :
    (Step.run (scanMarker source theme marker) processor).2.hooks = processor.hooks := by
  obtain ⟨log, overrides, h⟩ := exists_state_scanMarker source theme marker processor
  rw [h]
  rfl

theorem Reflects.scanMarker (hr : Reflects theme history processor) (source : Text) (other : Theme)
    (marker : Sheet.Marker) :
    Reflects theme (history ++ traceAt source other marker processor)
      (Step.run (scanMarker source other marker) processor).2 where
  hooks := hooks_scanMarker source other marker processor ▸ hr.hooks
  scopes rule := by
    rw [scopes_scanMarker]
    exact (hr.led source other marker).scopes rule

/-- A scan for any theme adds what happens in it to the history. -/
theorem Reflects.scanMarkers (hr : Reflects theme history processor) (source : Text) (other : Theme)
    (markers : List Sheet.Marker) :
    Reflects theme (history ++ traceThrough source other markers processor)
      (Step.run (scanMarkers source other markers) processor).2 := by
  induction markers generalizing history processor with
  | nil => rwa [traceThrough, List.append_nil]
  | cons marker markers ih =>
    have hm := hr.scanMarker source other marker
    rw [state_scanMarkers_cons, traceThrough, ← List.append_assoc]
    cases hrun : Step.run (Processor.scanMarker source other marker) processor with
    | mk result after =>
      rw [hrun] at hm
      cases result with
      | error => rwa [List.append_nil]
      | ok recorded => exact ih hm

theorem Reflects.scopedBy (hr : Reflects theme history processor)
    (ht : ∀ c ∈ theme.name, Text.isNameChar c = true) (rule : Text) :
    ScopedBy theme.name history rule (processor.work.scopes.scope rule theme.name) := by
  rw [CustomScopes.scope_eq, hr.scopes rule]
  cases hl : lastScope? theme.name rule history with
  | none =>
    exact .standard (lastScope?_eq_none_iff.mp hl) rfl fun _ => Scope.carries_standard ht
  | some result =>
    obtain ⟨front, call, back, he, hs, hb⟩ := lastScope?_eq_some_iff.mp hl
    obtain ⟨mode, selector, hc, rfl⟩ := Happening.scoped?_apply_eq_some_iff.mp hs
    exact .custom he hb hc (Scope.isRewritten_custom ht mode rule selector)

/-- An override was recorded for a marker of a scan, and is scoped by the calls up to there, those
in the expression of the marker included. -/
def RecordedFor (source : Text) (theme : Theme) (history : List Happening)
    (markers : List Sheet.Marker) (processor : Processor) (entry : Sheet.Marker × Override) : Prop :=
  ∃ front back, markers = front ++ entry.1 :: back ∧
    ScopedBy theme.name (history ++ traceThrough source theme (front ++ [entry.1]) processor)
      (Sheet.contextAt source entry.1.start).rule entry.2.rule

theorem exists_recorded_scanMarker (hr : Reflects theme history processor)
    (ht : ∀ c ∈ theme.name, Text.isNameChar c = true) (source : Text) (marker : Sheet.Marker) :
    ∃ added : List (Sheet.Marker × Override),
      (Step.run (scanMarker source theme marker) processor).2.overrides =
        added.foldl (fun store entry => store.record entry.2) processor.overrides ∧
      ∀ entry ∈ added, entry.1 = marker ∧
        ScopedBy theme.name (history ++ traceAt source theme marker processor)
          (Sheet.contextAt source marker.start).rule entry.2.rule := by
  have hled := hr.led source theme marker
  have ho : (processor.led (siteOf source theme marker)).2.overrides = processor.overrides := rfl
  rw [run_scanMarker_eq]
  revert hled ho
  generalize processor.led (siteOf source theme marker) = led
  intro hled ho
  dsimp only
  split
  · exact ⟨[], ho, nofun⟩
  · exact ⟨[], ho, nofun⟩
  · split
    · obtain ⟨changed, log, hrun, hrule⟩ := exists_run_keep _ _ _
      rw [hrun]
      refine ⟨[(marker, changed)], congrArg (OverrideStore.record changed) ho, ?_⟩
      intro entry he
      obtain rfl := List.mem_singleton.mp he
      exact ⟨rfl, hrule hled.hooks ▸ hled.scopedBy ht _⟩
    · exact ⟨[], ho, nofun⟩

theorem exists_recorded_scanMarkers (hr : Reflects theme history processor)
    (ht : ∀ c ∈ theme.name, Text.isNameChar c = true) (source : Text)
    (markers : List Sheet.Marker) :
    ∃ added : List (Sheet.Marker × Override),
      (Step.run (scanMarkers source theme markers) processor).2.overrides =
        added.foldl (fun store entry => store.record entry.2) processor.overrides ∧
      ∀ entry ∈ added, RecordedFor source theme history markers processor entry := by
  induction markers generalizing history processor with
  | nil => exact ⟨[], rfl, nofun⟩
  | cons marker markers ih =>
    obtain ⟨added, ho, ha⟩ := exists_recorded_scanMarker hr ht source marker
    have hafter := hr.scanMarker source theme marker
    have hfirst : ∀ entry ∈ added,
        RecordedFor source theme history (marker :: markers) processor entry := by
      intro entry he
      obtain ⟨rfl, hs⟩ := ha entry he
      refine ⟨[], markers, rfl, ?_⟩
      have htrace : traceThrough source theme [entry.1] processor =
          traceAt source theme entry.1 processor := by
        rw [traceThrough]
        split <;> exact List.append_nil _
      rwa [List.nil_append, htrace]
    rw [state_scanMarkers_cons]
    cases hrun : Step.run (scanMarker source theme marker) processor with
    | mk result after =>
      rw [hrun] at ho hafter
      cases result with
      | error => exact ⟨added, ho, hfirst⟩
      | ok recorded =>
        obtain ⟨rest, hrest, hadded⟩ := ih hafter
        refine ⟨added ++ rest, by rw [List.foldl_append, ← ho, hrest], fun entry he => ?_⟩
        rcases List.mem_append.mp he with he | he
        · exact hfirst entry he
        · obtain ⟨front, back, rfl, hs⟩ := hadded entry he
          refine ⟨marker :: front, back, rfl, ?_⟩
          rw [List.cons_append, traceThrough, hrun, ← List.append_assoc]
          exact hs

/-- Every override that a scan records is scoped by the calls up to its marker. -/
theorem scan_isolated (hr : Reflects theme history processor)
    (ht : ∀ c ∈ theme.name, Text.isNameChar c = true) (source : Text) :
    ∃ added : List (Sheet.Marker × Override),
      (Step.run (scan source theme) processor).2.overrides =
        added.foldl (fun store entry => store.record entry.2) processor.overrides ∧
      (∀ entry ∈ added,
        RecordedFor source theme history (Sheet.markers source) processor entry) ∧
      Reflects theme (history ++ traceThrough source theme (Sheet.markers source) processor)
        (Step.run (scan source theme) processor).2 := by
  obtain ⟨added, ho, ha⟩ := exists_recorded_scanMarkers hr ht source (Sheet.markers source)
  exact ⟨added, ho, ha, hr.scanMarkers source theme (Sheet.markers source)⟩

-- ---------------------------------------------------------------------------
-- One custom scope
-- ---------------------------------------------------------------------------

def scopedSheet : Text :=
  ".a, .b \x7b /*![setRuleScope(.a)]*/ x: y; /*![demo.fg]*/ color: black; \x7d"

theorem redTheme_name : ∀ c ∈ redTheme.name, Text.isNameChar c = true := by
  decide +kernel

theorem parse_setRuleScope : Expression.parse "setRuleScope(.a)" =
    .ok (.call "setRuleScope" [.literal ".a"] (Text.strip "setRuleScope(.a)")) := by
  have hc : Expression.callParts? (Text.strip "setRuleScope(.a)") =
      some ("setRuleScope".toList, ".a".toList) := by decide +kernel
  have hs : Expression.splitArguments ".a" = .ok [".a".toList] := rfl
  have hl : Expression.parseArgument ".a" = .ok (.literal ".a") := by
    rw [Expression.parseArgument_of_no_call (by decide +kernel)]
    rfl
  rw [Expression.parse_of_callParts?_eq_some hc, Expression.parseArguments, hs]
  simp only [bind, Except.bind, List.mapM_cons, hl]
  rfl

theorem scan_isolated_red :
    Reflects redTheme [] (initial "demo" []) ∧
      (∀ c ∈ redTheme.name, Text.isNameChar c = true) ∧
      ∃ added : List (Sheet.Marker × Override),
        (Step.run (scan scopedSheet redTheme) (initial "demo" [])).2.overrides =
          added.foldl (fun store entry => store.record entry.2) (initial "demo" []).overrides ∧
        ∀ entry ∈ added,
          RecordedFor scopedSheet redTheme [] (Sheet.markers scopedSheet) (initial "demo" [])
            entry := by
  have hr := reflects_initial redTheme "demo"
  obtain ⟨added, ho, ha, -⟩ := scan_isolated hr redTheme_name scopedSheet
  exact ⟨hr, redTheme_name, added, ho, ha⟩

theorem state_run_scanMarkers_singleton (source : Text) (theme : Theme) (marker : Sheet.Marker)
    (processor : Processor) :
    (Step.run (scanMarkers source theme [marker]) processor).2 =
      (Step.run (scanMarker source theme marker) processor).2 :=
  state_run_bind_pure _ (fun recorded : Bool => (if recorded then 1 else 0) + 0) processor

theorem markers_scopedSheet : Sheet.markers scopedSheet =
    [⟨"setRuleScope(.a)".toList, 9, 32⟩, ⟨"demo.fg".toList, 39, 53⟩] := by
  cbv

theorem contextAt_scopedSheet : Sheet.contextAt scopedSheet 39 = ⟨"color", ".a,.b", false⟩ := by
  decide +kernel

theorem run_scanMarker_scopedSheet :
    Step.run (scanMarker scopedSheet redTheme ⟨"setRuleScope(.a)".toList, 9, 32⟩)
      (initial "demo" []) =
        (.ok false, { initial "demo" [] with
          work := Workspace.empty.joined "dark" ".a,.b" ".a" }) := by
  have hrule : Sheet.ruleNameAt scopedSheet (Sheet.offset scopedSheet (9 : Nat)) =
      ".a,.b".toList := by decide +kernel
  rw [scanMarker, Step.run_bind, run_evaluate, led,
    Expression.led_ruleScope parse_setRuleScope rfl hrule (by decide)]
  rfl

/-- The second selector of the recorded override does not carry the class. -/
theorem scan_not_isolated :
    (Step.run (scan scopedSheet redTheme) (initial "demo" [])).2.overrides =
        [(".a.dark,.b".toList, [⟨".a.dark,.b", "color", "red", "fg", false⟩])] ∧
      ".b".toList ∈ Scope.selectors ".a.dark,.b" ∧ ¬ Scope.Carries "dark" ".b" := by
  have hsecond : (Step.run (scanMarker scopedSheet redTheme ⟨"demo.fg".toList, 39, 53⟩)
      { initial "demo" [] with work := Workspace.empty.joined "dark" ".a,.b" ".a" }).2.overrides =
        [(".a.dark,.b".toList, [⟨".a.dark,.b", "color", "red", "fg", false⟩])] := by
    rw [scanMarker, Step.run_bind, run_evaluate, led, Expression.led_path parse_color,
      contextAt_scopedSheet]
    decide +kernel
  refine ⟨?_, by decide, ?_⟩
  · rw [scan, markers_scopedSheet, scanMarkers, Step.run_bind, run_scanMarker_scopedSheet, ← hsecond]
    dsimp only
    rw [state_run_bind_pure, state_run_scanMarkers_singleton]
  · rintro ⟨before, after, he, -⟩
    have hi : Text.occursIn (Scope.className "dark") ".b" = true :=
      (Text.occursIn_iff _ _).mpr ⟨before, after, he.symm⟩
    exact absurd hi (by decide)

end Processor

end Retheme
