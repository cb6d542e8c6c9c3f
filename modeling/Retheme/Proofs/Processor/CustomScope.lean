import Retheme.Proofs.Processor.Isolation
import Retheme.Proofs.Sheet.MarkerComment

/-!
# From a call to the overrides it scopes

A custom scope is registered under the name of the rule in front of a marker,
and looked up under the name found behind one. Where both markers stand alone in
one block the names are the same.
-/

namespace Retheme.Processor

variable {source : Text} {theme : Theme} {rule : Text} {marker later : Sheet.Marker}
  {processor after : Processor}

theorem run_scanMarker_keep {value : Text}
    (hv : (processor.led (siteOf source theme marker)).1.declared? = .ok (some value))
    (hc : (Sheet.contextAt source marker.start).isValid = true) :
    Step.run (scanMarker source theme marker) processor =
      Step.run (keep theme
          ((processor.led (siteOf source theme marker)).2.overrideOf source theme marker value))
        (processor.led (siteOf source theme marker)).2 := by
  rw [run_scanMarker_eq]
  simp only [hv, hc, if_true]

/-- A call in the expression of a marker that has all it needs to register a custom scope, but for
the rule. -/
structure Rescopes (source : Text) (theme : Theme) (marker : Sheet.Marker) (mode : ScopeMode)
    (selector : Text) (call : Call) : Prop where
  function : call.function = .ruleScope
  site : ∃ text, call.site = { siteOf source theme marker with expression := text }
  mode : call.mode? = some mode
  selector : call.selector? = some selector

variable {mode : ScopeMode} {selector : Text} {call : Call}

theorem Rescopes.theme_eq (h : Rescopes source theme marker mode selector call) :
    call.site.theme = theme := by
  obtain ⟨text, hs⟩ := h.site
  rw [hs, siteOf]

theorem Rescopes.rule_eq (h : Rescopes source theme marker mode selector call) :
    call.rule = Sheet.ruleNameAt source marker.start := by
  obtain ⟨text, hs⟩ := h.site
  have ho : Sheet.offset source (marker.start : Int) = marker.start := by
    simp [Sheet.offset]
  rw [Call.rule, hs, siteOf, ho]

theorem Rescopes.scoped?_eq (h : Rescopes source theme marker mode selector call) :
    call.scoped? =
      if Sheet.ruleNameAt source marker.start = [] then none
      else some (Scope.custom mode (Sheet.ruleNameAt source marker.start) selector theme.name) := by
  rw [Call.scoped?, h.function]
  simp only [h.rule_eq, h.mode, h.selector, h.theme_eq, List.isEmpty_iff, Option.bind_some,
    Option.map_some]

/-- A scan comes to a marker, and of all calls up to there, those in its own expression included,
a call was the last to register a custom scope for a rule. -/
inductive RegisteredLast (source : Text) (theme : Theme) (rule : Text) (call : Call)
    (later : Sheet.Marker) : Processor → Prop
  | mk {markers : List Sheet.Marker} {processor after : Processor} {count : Nat}
      {front back : List Happening}
      (hrun : Step.run (scanMarkers source theme markers) processor = (.ok count, after))
      (htrace : traceThrough source theme markers processor ++ traceAt source theme later after =
        front ++ .apply call :: back)
      (hback : ∀ happening ∈ back, happening.scoped? theme.name rule = none) :
      RegisteredLast source theme rule call later after

theorem RegisteredLast.registered? {result : Text}
    (h : RegisteredLast source theme rule call later after)
    (hc : Happening.scoped? theme.name rule (.apply call) = some result) :
    (after.led (siteOf source theme later)).2.work.scopes.registered? theme.name rule =
      some result := by
  obtain ⟨hrun, htrace, hback⟩ := h
  next markers processor count front back =>
  have hs := registered?_scanMarkers theme.name rule source theme markers processor
  rw [hrun] at hs
  rw [registered?_led, hs, ← Option.or_assoc, ← lastScope?_append, htrace,
    lastScope?_eq_some_iff.mpr ⟨_, _, _, rfl, hc, hback⟩]
  rfl

/-- A marker that stands alone is blanked out, so the rule has the same name on both sides of it. A
call in it registers its custom scope under that name, and every override for a marker that stands
alone in the same block is scoped by it, until another call replaces it. -/
theorem custom_scope_applies (h : Sheet.StandsAlone source marker) :
    (∀ place, marker.start ≤ place → place < marker.stop →
        (Sheet.blankComments source)[place]? = some ' ') ∧
      Sheet.ruleNameAt source marker.start = Sheet.ruleNameAt source marker.stop ∧
      ∀ later, Sheet.StandsAlone source later → Sheet.SameBlock source marker later →
        let context := Sheet.contextAt source later.start
        context.prop ≠ [] →
        context.rule = Sheet.ruleNameAt source marker.start ∧
        ∀ theme mode selector call, Rescopes source theme marker mode selector call →
          context.rule ≠ [] →
          let result := Scope.custom mode context.rule selector theme.name
          (∀ work, (call.perform work).scopes =
              work.scopes.register theme.name context.rule result) ∧
            ∀ after, RegisteredLast source theme context.rule call later after →
              let led := after.led (siteOf source theme later)
              led.2.work.scopes.scope context.rule theme.name = result ∧
                ∀ value, led.1.declared? = .ok (some value) →
                  Step.run (scanMarker source theme later) after =
                    Step.run (keep theme
                      ⟨result, context.prop, value, later.key, context.important⟩) led.2 := by
  refine ⟨fun _ => h.getElem?_blankComments, h.ruleNameAt_stop.symm, fun later hl hs => ?_⟩
  intro context hp
  have hrule : context.rule = Sheet.ruleNameAt source marker.start := by
    rw [← h.ruleNameAt_eq hs]
    exact hl.contextAt_rule hp
  refine ⟨hrule, fun theme mode selector call hc hn => ?_⟩
  intro result
  have hscoped : call.scoped? = some result := by
    rw [hc.scoped?_eq, ← hrule, if_neg hn]
  refine ⟨fun work => ?_, fun after hafter => ?_⟩
  · rw [Call.scopes_perform, hscoped, hc.rule_eq, hc.theme_eq, hrule]
  · intro led
    have hcall : Happening.scoped? theme.name context.rule (.apply call) = some result := by
      rw [Happening.scoped?, hc.theme_eq, hc.rule_eq, if_pos ⟨rfl, hrule.symm⟩, hscoped]
    have hregistered : led.2.work.scopes.registered? theme.name context.rule = some result :=
      hafter.registered? hcall
    have hscope : led.2.work.scopes.scope context.rule theme.name = result := by
      rw [CustomScopes.scope, ← CustomScopes.registered?, hregistered, Option.getD_some]
    refine ⟨hscope, fun value hv => ?_⟩
    have hvalid : context.isValid = true := by
      simp [Sheet.Context.isValid, hp, hn]
    rw [run_scanMarker_keep hv hvalid, overrideOf, hscope]

def callMarker : Sheet.Marker := ⟨"setRuleScope(.a)", 9, 32⟩

def colorMarker : Sheet.Marker := ⟨"demo.fg", 39, 53⟩

def callAt (source : Text) (marker : Sheet.Marker) : Call :=
  ⟨.ruleScope, { siteOf source redTheme marker with expression := Text.strip "setRuleScope(.a)" },
    [.text ".a"]⟩

theorem rescopes_callAt (source : Text) (marker : Sheet.Marker) :
    Rescopes source redTheme marker .joined ".a" (callAt source marker) :=
  ⟨rfl, ⟨_, rfl⟩, rfl, rfl⟩

theorem traceAt_callAt {source : Text} {marker : Sheet.Marker}
    (he : marker.expression = "setRuleScope(.a)") :
    traceAt source redTheme marker (initial "demo" []) = [.apply (callAt source marker)] := by
  have hp : Expression.parse (siteOf source redTheme marker).expression =
      .ok (.call "setRuleScope" [.literal ".a"] (Text.strip "setRuleScope(.a)")) := by
    rw [siteOf, he, parse_setRuleScope]
  rw [traceAt, Expression.traceOf, hp]
  rfl

def scopedProcessor : Processor :=
  { initial "demo" [] with work := Workspace.empty.joined "dark" ".a,.b" ".a" }

theorem registeredLast_colorMarker :
    RegisteredLast scopedSheet redTheme ".a,.b" (callAt scopedSheet callMarker) colorMarker
      scopedProcessor := by
  have hrun : Step.run (scanMarker scopedSheet redTheme callMarker) (initial "demo" []) =
      (.ok false, scopedProcessor) := run_scanMarker_scopedSheet
  have hcall : traceThrough scopedSheet redTheme [callMarker] (initial "demo" []) =
      [.apply (callAt scopedSheet callMarker)] := by
    rw [traceThrough, traceAt_callAt rfl, hrun]
    rfl
  have hcolor : traceAt scopedSheet redTheme colorMarker scopedProcessor = [] :=
    Expression.traceOf_path parse_color
  have hscan : Step.run (scanMarkers scopedSheet redTheme [callMarker]) (initial "demo" []) =
      (.ok 0, scopedProcessor) := by
    rw [scanMarkers, Step.run_bind, hrun]
    rfl
  exact @RegisteredLast.mk _ _ _ _ _ _ _ _ _ [] [] hscan (by rw [hcall, hcolor]; rfl)
    (List.forall_mem_nil _)

theorem standsAlone_scopedSheet :
    Sheet.StandsAlone scopedSheet callMarker ∧ Sheet.StandsAlone scopedSheet colorMarker ∧
      Sheet.SameBlock scopedSheet callMarker colorMarker := by
  refine ⟨⟨?_, by decide +kernel, by decide⟩, ⟨?_, by decide +kernel, by decide⟩,
    ⟨by decide, by decide +kernel⟩⟩
  · rw [markers_scopedSheet]
    exact List.mem_cons_self
  · rw [markers_scopedSheet]
    exact List.mem_cons_of_mem _ List.mem_cons_self

theorem custom_scope_applies_color :
    Sheet.StandsAlone scopedSheet callMarker ∧ Sheet.StandsAlone scopedSheet colorMarker ∧
      Sheet.SameBlock scopedSheet callMarker colorMarker ∧
      Sheet.contextAt scopedSheet colorMarker.start = ⟨"color", ".a,.b", false⟩ ∧
      Rescopes scopedSheet redTheme callMarker .joined ".a" (callAt scopedSheet callMarker) ∧
      RegisteredLast scopedSheet redTheme ".a,.b" (callAt scopedSheet callMarker) colorMarker
        scopedProcessor ∧
      Step.run (scanMarker scopedSheet redTheme colorMarker) scopedProcessor =
        Step.run (keep redTheme
            ⟨Scope.custom .joined ".a,.b" ".a" "dark", "color", "red", colorMarker.key, false⟩)
          (scopedProcessor.led (siteOf scopedSheet redTheme colorMarker)).2 := by
  obtain ⟨hcall, hcolor, hblock⟩ := standsAlone_scopedSheet
  have hcontext : Sheet.contextAt scopedSheet colorMarker.start = ⟨"color", ".a,.b", false⟩ :=
    contextAt_scopedSheet
  have hrescopes := rescopes_callAt scopedSheet callMarker
  have hvalue : (scopedProcessor.led (siteOf scopedSheet redTheme colorMarker)).1.declared? =
      .ok (some "red".toList) := by
    have hs : siteOf scopedSheet redTheme colorMarker =
        ⟨"demo.fg", redTheme, scopedSheet, (39 : Nat)⟩ := rfl
    rw [led, hs, Expression.led_path parse_color]
    rfl
  obtain ⟨-, -, hlater⟩ := custom_scope_applies hcall
  have happlies := hlater colorMarker hcolor hblock
  rw [hcontext] at happlies
  obtain ⟨-, hscoped⟩ := happlies (by decide)
  obtain ⟨-, hrun⟩ := hscoped redTheme .joined ".a" _ hrescopes (by decide)
  exact ⟨hcall, hcolor, hblock, hcontext, hrescopes, registeredLast_colorMarker,
    (hrun _ registeredLast_colorMarker).2 _ hvalue⟩

def namelessSheet : Text := "\x7b /*![setRuleScope(.a)]*/ color: red; \x7d"

def namelessMarker : Sheet.Marker := ⟨"setRuleScope(.a)", 2, 25⟩

/-- Where the rule has no name nothing is registered, though the call has a selector and a known
mode and the marker stands in front of a declaration; nor is anything where the call has no
selector. -/
theorem custom_scope_not_registered :
    Sheet.StandsAlone namelessSheet namelessMarker ∧
      namelessSheet.take namelessMarker.start = "\x7b ".toList ∧
      Sheet.contextAt namelessSheet namelessMarker.start = ⟨"color", [], false⟩ ∧
      Rescopes namelessSheet redTheme namelessMarker .joined ".a"
        (callAt namelessSheet namelessMarker) ∧
      traceAt namelessSheet redTheme namelessMarker (initial "demo" []) =
        [.apply (callAt namelessSheet namelessMarker)] ∧
      ((initial "demo" []).led
        (siteOf namelessSheet redTheme namelessMarker)).2.work.scopes.registered? "dark" [] = none ∧
      ∀ work, (Call.perform ⟨.ruleScope, siteOf scopedSheet redTheme callMarker, []⟩ work).scopes =
        work.scopes := by
  have hrule : Sheet.ruleNameAt namelessSheet namelessMarker.start = [] := by decide +kernel
  have hm : Sheet.markers namelessSheet = [⟨"setRuleScope(.a)".toList, 2, 25⟩] := by cbv
  have halone : Sheet.StandsAlone namelessSheet namelessMarker :=
    ⟨hm ▸ List.mem_cons_self, by decide +kernel, by decide⟩
  have hrescopes := rescopes_callAt namelessSheet namelessMarker
  have htrace := @traceAt_callAt namelessSheet namelessMarker rfl
  have hnone : (callAt namelessSheet namelessMarker).scoped? = none := by
    rw [hrescopes.scoped?_eq, if_pos hrule]
  refine ⟨halone, by decide, by decide +kernel, hrescopes, htrace, ?_, fun work => ?_⟩
  · rw [registered?_led, htrace]
    simp only [lastScope?, Happening.scoped?, hnone, ite_self, List.reverse_singleton,
      List.findSome?_cons, List.findSome?_nil, Option.none_or]
    rfl
  · rw [Call.scopes_perform]
    simp [Call.scoped?, Call.selector?, Function.argument, Value.isNull]

end Retheme.Processor
