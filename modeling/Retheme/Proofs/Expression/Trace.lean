import Retheme.Proofs.Expression.Outcome

/-!
# What happens while an expression is evaluated

Two kinds of things happen while an expression is evaluated: variables are read,
and functions are applied to arguments, inner calls first and arguments from left
to right. A failure ends what happens. The trace of an evaluation lists it all in
order; what the evaluation does to a workspace is what the functions of its trace
do to it one after the other (`state_resolve`), reports aside.
-/

namespace Retheme

structure Call where
  function : Function
  site : Site
  args : List Value

inductive Happening where
  /-- A variable, written as a text, is read at a site with an outcome. -/
  | read (site : Site) (name text : Text) (outcome : Except Failure Value)
  | apply (call : Call)

def Call.perform (call : Call) (work : Workspace) : Workspace :=
  (Step.run (call.function.apply call.site call.args) work).2

def Happening.perform (work : Workspace) : Happening → Workspace
  | read .. => work
  | apply call => call.perform work

def Workspace.through (happenings : List Happening) (work : Workspace) : Workspace :=
  happenings.foldl Happening.perform work

theorem Workspace.through_append (front back : List Happening) (work : Workspace) :
    work.through (front ++ back) = (work.through front).through back :=
  List.foldl_append

namespace Expression

mutual
def trace (functions : Registry) (site : Site) (work : Workspace) : Node → List Happening
  | .literal _ => []
  | .variable name text =>
    [.read site name text (Step.run (resolve functions site (.variable name text)) work).1]
  | .path _ _ => []
  | .call name args text =>
    match Entries.get? name functions with
    | none => []
    | some function =>
      traceAll functions site work args ++
        match (Step.run (resolveAll functions site args) work).1 with
        | .ok values => [.apply ⟨function, { site with expression := text }, values⟩]
        | .error _ => []

def traceAll (functions : Registry) (site : Site) (work : Workspace) :
    List Node → List Happening
  | [] => []
  | node :: nodes =>
    trace functions site work node ++
      match Step.run (resolve functions site node) work with
      | (.ok _, after) => traceAll functions site after nodes
      | (.error _, _) => []
end

def traceOf (functions : Registry) (site : Site) (work : Workspace) : List Happening :=
  match parse site.expression with
  | .ok (.call name args text) => trace functions site work (.call name args text)
  | _ => []

variable {functions : Registry} {site : Site} {work : Workspace}

-- ---------------------------------------------------------------------------
-- The workspace behind a trace
-- ---------------------------------------------------------------------------

mutual
/-- Resolving an argument does to a workspace what the functions of its trace do. -/
theorem state_resolve (functions : Registry) (site : Site) (work : Workspace) :
    ∀ node : Node, (Step.run (resolve functions site node) work).2 =
      work.through (trace functions site work node)
  | .literal text => by
    rw [resolve, trace]
    rfl
  | .variable name text => by
    rw [resolve, trace]
    simp only [Step.run_bind, Step.run_read]
    cases Variables.lookup? name work.locals work.globals with
    | some value => rfl
    | none =>
      dsimp only
      split
      · split <;> rfl
      · rfl
  | .path segments text => by
    rw [resolve.eq_def, trace]
    dsimp only
    split <;> rfl
  | .call name args text => by
    rw [resolve.eq_def, trace]
    dsimp only
    cases Entries.get? name functions with
    | none => rfl
    | some function =>
      have ha := state_resolveAll functions site work args
      dsimp only
      -- What the arguments did stays done, whether the function is applied or not.
      rw [Step.run_bind, Workspace.through_append, ← ha]
      cases Step.run (resolveAll functions site args) work with
      | mk result after => cases result <;> rfl

theorem state_resolveAll (functions : Registry) (site : Site) (work : Workspace) :
    ∀ nodes : List Node, (Step.run (resolveAll functions site nodes) work).2 =
      work.through (traceAll functions site work nodes)
  | [] => by
    rw [resolveAll, traceAll]
    rfl
  | node :: nodes => by
    have hn := state_resolve functions site work node
    rw [resolveAll, traceAll, Step.run_bind, Workspace.through_append, ← hn]
    cases Step.run (resolve functions site node) work with
    | mk result after =>
      cases result with
      | error => rfl
      | ok value =>
        have hr := state_resolveAll functions site after nodes
        dsimp only
        rw [Step.run_bind, ← hr]
        cases Step.run (resolveAll functions site nodes) after with
        | mk result last => cases result <;> rfl
end

mutual
/-- The functions of a trace are those that the evaluation can come to. They are applied at the site
of the expression, with their own texts. -/
theorem apply_mem_trace (functions : Registry) (site : Site) (call : Call) (work : Workspace) :
    ∀ node : Node, .apply call ∈ trace functions site work node →
      ∃ text, call.site = { site with expression := text } ∧
        Reaches functions call.function text node
  | .literal text, h => by
    rw [trace] at h
    cases h
  | .variable name text, h => by
    rw [trace] at h
    cases List.mem_singleton.mp h
  | .path segments text, h => by
    rw [trace] at h
    cases h
  | .call name args text, h => by
    rw [trace.eq_def] at h
    dsimp only at h
    split at h
    · cases h
    · next function hf =>
      rcases List.mem_append.mp h with h | h
      · obtain ⟨inner, hs, node, hm, hr⟩ := apply_mem_traceAll functions site call work args h
        exact ⟨inner, hs, .inside hf hm hr⟩
      · split at h
        · cases List.mem_singleton.mp h
          exact ⟨text, rfl, .here hf⟩
        · cases h

theorem apply_mem_traceAll (functions : Registry) (site : Site) (call : Call) (work : Workspace) :
    ∀ nodes : List Node, .apply call ∈ traceAll functions site work nodes →
      ∃ text, call.site = { site with expression := text } ∧
        ∃ node ∈ nodes, Reaches functions call.function text node
  | [], h => by
    rw [traceAll] at h
    cases h
  | node :: nodes, h => by
    rw [traceAll] at h
    rcases List.mem_append.mp h with h | h
    · obtain ⟨text, hs, hr⟩ := apply_mem_trace functions site call work node h
      exact ⟨text, hs, node, List.mem_cons_self, hr⟩
    · split at h
      · obtain ⟨text, hs, other, hm, hr⟩ := apply_mem_traceAll functions site call _ nodes h
        exact ⟨text, hs, other, List.mem_cons_of_mem _ hm, hr⟩
      · cases h
end

theorem traceOf_path {segments : List Text} {text : Text}
    (h : parse site.expression = .ok (.path segments text)) : traceOf functions site work = [] := by
  rw [traceOf, h]

theorem apply_mem_traceOf {call : Call} (h : .apply call ∈ traceOf functions site work) :
    ∃ name args text inner, parse site.expression = .ok (.call name args text) ∧
      call.site = { site with expression := inner } ∧
      Reaches functions call.function inner (.call name args text) := by
  rw [traceOf] at h
  split at h
  · next name args text he =>
    obtain ⟨inner, hs, hr⟩ := apply_mem_trace functions site call work _ h
    exact ⟨name, args, text, inner, he, hs, hr⟩
  · cases h

theorem exists_state_led (functions : Registry) (site : Site) (work : Workspace) :
    ∃ log, (led functions site work).2 =
      { work.through (traceOf functions site work) with log } := by
  rw [led, lead, traceOf]
  cases parse site.expression with
  | error malformed => exact ⟨_, rfl⟩
  | ok expression =>
    cases expression with
    | path segments text => exact ⟨_, rfl⟩
    | call name args text =>
      dsimp only
      rw [trace.eq_def]
      dsimp only
      cases Entries.get? name functions with
      | none => exact ⟨_, rfl⟩
      | some function =>
        have ha := state_resolveAll functions site work args
        dsimp only
        rw [evaluateCall, Step.run_orElse, Step.run_bind, Workspace.through_append, ← ha]
        cases Step.run (resolveAll functions site args) work with
        | mk result after =>
          cases result with
          | error => exact ⟨_, rfl⟩
          | ok values =>
            dsimp only [Workspace.through, List.foldl_cons, List.foldl_nil, Happening.perform,
              Call.perform]
            cases Step.run (function.apply { site with expression := text } values) after with
            | mk result last => cases result <;> exact ⟨_, rfl⟩

end Expression

-- ---------------------------------------------------------------------------
-- What a function does to a workspace
-- ---------------------------------------------------------------------------

namespace Call

variable {call : Call} {work : Workspace}

/-- The name and the value of a call with two arguments, which sets a variable if its function
does. -/
def assigned? (call : Call) : Option (Text × Value) :=
  match call.args with
  | [name, value] => name.shown.toOption.map fun name => (name, value)
  | _ => none

def assign (call : Call) (vars : Variables) : Variables :=
  match call.assigned? with
  | some (name, value) => vars.assign name value
  | none => vars

def rule (call : Call) : Text :=
  Sheet.ruleNameAt call.site.source (Sheet.offset call.site.source call.site.position)

/-- What a call may do to a workspace: set a variable, register a custom scope, or report. -/
inductive Does (call : Call) (work : Workspace) : Workspace → Prop
  | setLocal (h : call.function = .locals) :
      Does call work { work with locals := call.assign work.locals }
  | setGlobal (h : call.function = .globals) :
      Does call work { work with globals := call.assign work.globals }
  | scope (h : call.function = .ruleScope) (mode : ScopeMode) (selector : Text) (log : List Event)
      (hs : (Function.argument call.args 0).shown = .ok selector) :
      Does call work
        { work with
          scopes := work.scopes.register call.site.theme.name call.rule
            (Scope.custom mode call.rule selector call.site.theme.name)
          log }
  | report (hl : call.function ≠ .locals) (hg : call.function ≠ .globals) (log : List Event) :
      Does call work { work with log }

theorem state_access (get : Workspace → Variables) (set : Variables → Workspace → Workspace)
    (hset : ∀ work, set (get work) work = work) (call : Call) (work : Workspace) :
    (Step.run (Workspace.access get set call.args) work).2 = set (call.assign (get work)) work := by
  obtain ⟨function, site, args⟩ := call
  rw [assign, assigned?]
  match args with
  | [] => exact (hset work).symm
  | [name] =>
    simp only [Workspace.access, Step.run_bind, Step.run_ofExcept, hset]
    cases name.shown <;> rfl
  | [name, value] =>
    simp only [Workspace.access, Step.run_bind, Step.run_ofExcept]
    cases name.shown with
    | error => exact (hset work).symm
    | ok name => rfl
  | _ :: _ :: _ :: _ => exact (hset work).symm

theorem does_ruleScope (h : call.function = .ruleScope) :
    Does call work (Step.run (Workspace.setRuleScope call.site call.args) work).2 := by
  have hreport (log : List Event) : Does call work { work with log } :=
    .report (by simp [h]) (by simp [h]) log
  rw [Workspace.setRuleScope.eq_def]
  split
  · exact hreport work.log
  · dsimp only
    rw [← Call.rule]
    split_ifs
    · exact hreport work.log
    · simp only [Step.run_bind, Step.run_ofExcept]
      cases Workspace.modeName (Function.argument call.args 1) with
      | error => exact hreport work.log
      | ok name =>
        cases hs : (Function.argument call.args 0).shown with
        | error => exact hreport work.log
        | ok selector =>
          dsimp only
          cases ScopeMode.ofName? name with
          | none => exact hreport _
          | some mode => exact .scope h mode selector _ hs

theorem does_perform (call : Call) (work : Workspace) : call.Does work (call.perform work) := by
  rw [perform, Function.apply.eq_def]
  split
  · next function hf => exact .report (by simp [hf]) (by simp [hf]) _
  · next hf =>
    rw [state_access Workspace.locals (fun locals w => { w with locals }) fun _ => rfl]
    exact .setLocal hf
  · next hf =>
    rw [state_access Workspace.globals (fun globals w => { w with globals }) fun _ => rfl]
    exact .setGlobal hf
  · next hf => exact does_ruleScope hf
  · next apply hf => exact .report (by simp [hf]) (by simp [hf]) work.log

theorem exists_perform_of_builtin (h : ∃ function, call.function = .builtin function)
    (work : Workspace) : ∃ log, call.perform work = { work with log } := by
  obtain ⟨function, h⟩ := h
  rw [perform, h]
  exact ⟨_, rfl⟩

end Call

end Retheme
