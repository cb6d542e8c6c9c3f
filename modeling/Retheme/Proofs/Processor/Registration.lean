import Retheme.Proofs.Expression.Trace
import Retheme.Proofs.Processor.Addition

/-!
# What registers a custom scope

A custom scope is registered by a call, under the name of the rule in front of
its marker. What is registered for a rule is what the last call for it
registered, over one expression and over all markers that a scan comes to.
-/

namespace Retheme

-- ---------------------------------------------------------------------------
-- Custom scopes
-- ---------------------------------------------------------------------------

namespace CustomScopes

variable {theme rule other result : Text} {scopes : CustomScopes}

def registered? (theme rule : Text) (scopes : CustomScopes) : Option Text :=
  Entries.get? rule (scopes.ofTheme theme)

theorem registered?_register (theme' : Text) :
    (scopes.register theme' rule result).registered? theme other =
      if theme' = theme ∧ rule = other then some result else scopes.registered? theme other := by
  rw [registered?, registered?, ofTheme, ofTheme, register, Entries.get?_set]
  by_cases ht : theme' = theme
  · subst ht
    by_cases hr : rule = other <;> simp [hr, ofTheme]
  · simp [ht]

theorem scope_eq (scopes : CustomScopes) (rule theme : Text) :
    scopes.scope rule theme =
      (scopes.registered? theme rule).getD (Scope.standard rule theme) :=
  rfl

end CustomScopes

-- ---------------------------------------------------------------------------
-- What a call registers
-- ---------------------------------------------------------------------------

namespace Call

variable {call : Call} {work : Workspace}

/-- The selector that a call is given; nothing is none. -/
def selector? (call : Call) : Option Text :=
  let selector := Function.argument call.args 0
  if selector.isNull then none else selector.shown.toOption

def mode? (call : Call) : Option ScopeMode :=
  (Workspace.modeName (Function.argument call.args 1)).toOption.bind ScopeMode.ofName?

def scoped? (call : Call) : Option Text :=
  match call.function with
  | .ruleScope =>
    if call.rule.isEmpty then none
    else call.mode?.bind fun mode => call.selector?.map fun selector =>
      Scope.custom mode call.rule selector call.site.theme.name
  | _ => none

theorem scoped?_eq_none (h : call.function ≠ .ruleScope) : call.scoped? = none := by
  rw [scoped?]
  split
  · next hf => exact absurd hf h
  · rfl

/-- A call registers a custom scope for a rule and a theme. The rule has a name, the mode is known
and the selector is given. -/
structure Registers (theme rule : Text) (mode : ScopeMode) (selector : Text) (call : Call) :
    Prop where
  function : call.function = .ruleScope
  theme_eq : call.site.theme.name = theme
  rule_eq : call.rule = rule
  rule_ne : rule ≠ []
  mode_eq : call.mode? = some mode
  selector_eq : call.selector? = some selector

theorem scopes_setRuleScope (h : call.function = .ruleScope) :
    (Step.run (Workspace.setRuleScope call.site call.args) work).2.scopes =
      match call.scoped? with
      | some result => work.scopes.register call.site.theme.name call.rule result
      | none => work.scopes := by
  rw [scoped?, h]
  dsimp only
  rw [Workspace.setRuleScope.eq_def, selector?, mode?]
  generalize Function.argument call.args 0 = selector
  split
  · simp only [Value.isNull, if_true, Option.map_none, Option.bind_fun_none, ite_self]
    rfl
  · next hn =>
    have hv : selector.isNull = false := by
      cases selector with
      | null => exact absurd rfl hn
      | _ => rfl
    simp only [hv, Bool.false_eq_true, if_false]
    rw [← Call.rule]
    split_ifs
    · rfl
    · simp only [Step.run_bind, Step.run_ofExcept]
      cases Workspace.modeName (Function.argument call.args 1) with
      | error => rfl
      | ok name =>
        dsimp only [Except.toOption, Option.bind_some]
        cases selector.shown <;> cases ScopeMode.ofName? name <;> rfl

theorem scopes_perform (call : Call) (work : Workspace) :
    (call.perform work).scopes =
      match call.scoped? with
      | some result => work.scopes.register call.site.theme.name call.rule result
      | none => work.scopes := by
  by_cases h : call.function = .ruleScope
  · rw [perform, h]
    exact scopes_setRuleScope h
  · rw [scoped?_eq_none h]
    have hd := call.does_perform work
    generalize call.perform work = after at hd ⊢
    cases hd with
    | scope hf => exact absurd hf h
    | _ => rfl

end Call

-- ---------------------------------------------------------------------------
-- The last call for a rule
-- ---------------------------------------------------------------------------

variable {theme rule result : Text} {call : Call}

/-- The custom scope that is registered for a rule and a theme, if one is. -/
def Happening.scoped? (theme rule : Text) : Happening → Option Text
  | read .. => none
  | apply call => if call.site.theme.name = theme ∧ call.rule = rule then call.scoped? else none

theorem Happening.registered?_perform (happening : Happening) (work : Workspace) :
    (happening.perform work).scopes.registered? theme rule =
      (happening.scoped? theme rule).or (work.scopes.registered? theme rule) := by
  cases happening with
  | read => rfl
  | apply call =>
    rw [Happening.perform, Call.scopes_perform, scoped?]
    cases call.scoped? with
    | none => simp
    | some result =>
      dsimp only
      rw [CustomScopes.registered?_register]
      split_ifs <;> simp

theorem Happening.scoped?_apply_eq_some_iff :
    Happening.scoped? theme rule (.apply call) = some result ↔
      ∃ mode selector, call.Registers theme rule mode selector ∧
        result = Scope.custom mode rule selector theme := by
  constructor
  · intro h
    rw [scoped?] at h
    split at h
    · next hc =>
      obtain ⟨rfl, rfl⟩ := hc
      rw [Call.scoped?] at h
      split at h
      · next hf =>
        split at h
        · cases h
        · next hn =>
          obtain ⟨mode, hm, h⟩ := Option.bind_eq_some_iff.mp h
          obtain ⟨selector, hs, rfl⟩ := Option.map_eq_some_iff.mp h
          exact ⟨mode, selector, ⟨hf, rfl, rfl, by simpa using hn, hm, hs⟩, rfl⟩
      · cases h
    · cases h
  · rintro ⟨mode, selector, hc, rfl⟩
    have hn : rule.isEmpty = false := by simpa using hc.rule_ne
    rw [scoped?, if_pos ⟨hc.theme_eq, hc.rule_eq⟩, Call.scoped?, hc.function]
    dsimp only
    rw [hc.rule_eq, hn, hc.mode_eq, hc.selector_eq, hc.theme_eq]
    rfl

def lastScope? (theme rule : Text) (happenings : List Happening) : Option Text :=
  happenings.reverse.findSome? (·.scoped? theme rule)

theorem lastScope?_append (front back : List Happening) :
    lastScope? theme rule (front ++ back) =
      (lastScope? theme rule back).or (lastScope? theme rule front) := by
  rw [lastScope?, List.reverse_append, List.findSome?_append, lastScope?, lastScope?]

theorem lastScope?_eq_none_iff {happenings : List Happening} :
    lastScope? theme rule happenings = none ↔
      ∀ happening ∈ happenings, happening.scoped? theme rule = none := by
  simp [lastScope?]

theorem lastScope?_eq_some_iff {happenings : List Happening} :
    lastScope? theme rule happenings = some result ↔
      ∃ front call back, happenings = front ++ .apply call :: back ∧
        Happening.scoped? theme rule (.apply call) = some result ∧
          ∀ happening ∈ back, happening.scoped? theme rule = none := by
  rw [lastScope?, List.findSome?_eq_some_iff]
  constructor
  · rintro ⟨back, happening, front, he, hs, hb⟩
    cases happening with
    | read => cases hs
    | apply call =>
      refine ⟨front.reverse, call, back.reverse, ?_, hs, by simpa using hb⟩
      simpa using congrArg List.reverse he
  · rintro ⟨front, call, back, rfl, hs, hb⟩
    exact ⟨back.reverse, .apply call, front.reverse, by simp, hs, by simpa using hb⟩

theorem Workspace.registered?_through (work : Workspace) (happenings : List Happening) :
    (work.through happenings).scopes.registered? theme rule =
      (lastScope? theme rule happenings).or (work.scopes.registered? theme rule) := by
  induction happenings using List.reverseRecOn with
  | nil => rfl
  | append_singleton front last ih =>
    have hl : lastScope? theme rule [last] = last.scoped? theme rule := by
      simp [lastScope?]
    rw [through_append, through, List.foldl_cons, List.foldl_nil, Happening.registered?_perform, ih,
      lastScope?_append, hl, Option.or_assoc]

namespace Processor

-- ---------------------------------------------------------------------------
-- A scan
-- ---------------------------------------------------------------------------

def traceAt (source : Text) (theme : Theme) (marker : Sheet.Marker) (processor : Processor) :
    List Happening :=
  Expression.traceOf processor.functions (siteOf source theme marker) processor.work

def traceThrough (source : Text) (theme : Theme) : List Sheet.Marker → Processor → List Happening
  | [], _ => []
  | marker :: rest, processor =>
    traceAt source theme marker processor ++
      match Step.run (scanMarker source theme marker) processor with
      | (.ok _, after) => traceThrough source theme rest after
      | (.error _, _) => []

theorem scopes_scanMarker (source : Text) (theme : Theme) (marker : Sheet.Marker)
    (processor : Processor) :
    (Step.run (scanMarker source theme marker) processor).2.work.scopes =
      (processor.led (siteOf source theme marker)).2.work.scopes := by
  obtain ⟨log, overrides, h⟩ := exists_state_scanMarker source theme marker processor
  rw [h]
  rfl

theorem registered?_led (name rule : Text) (source : Text) (theme : Theme) (marker : Sheet.Marker)
    (processor : Processor) :
    (processor.led (siteOf source theme marker)).2.work.scopes.registered? name rule =
      (lastScope? name rule (traceAt source theme marker processor)).or
        (processor.work.scopes.registered? name rule) := by
  obtain ⟨log, hl⟩ := Expression.exists_state_led processor.functions (siteOf source theme marker)
    processor.work
  have hw : (processor.led (siteOf source theme marker)).2.work =
      { processor.work.through (traceAt source theme marker processor) with log } := hl
  rw [hw]
  exact Workspace.registered?_through _ _

/-- Over a scan, a rule has the custom scope that was registered for it last. -/
theorem registered?_scanMarkers (name rule : Text) (source : Text) (theme : Theme)
    (markers : List Sheet.Marker) (processor : Processor) :
    (Step.run (scanMarkers source theme markers) processor).2.work.scopes.registered? name rule =
      (lastScope? name rule (traceThrough source theme markers processor)).or
        (processor.work.scopes.registered? name rule) := by
  induction markers generalizing processor with
  | nil => rfl
  | cons marker markers ih =>
    have hm := scopes_scanMarker source theme marker processor
    have hl := registered?_led name rule source theme marker processor
    rw [← hm] at hl
    rw [state_scanMarkers_cons, traceThrough, lastScope?_append, Option.or_assoc, ← hl]
    cases Step.run (scanMarker source theme marker) processor with
    | mk result after =>
      cases result with
      | error => rfl
      | ok recorded => exact ih after

end Processor

end Retheme
