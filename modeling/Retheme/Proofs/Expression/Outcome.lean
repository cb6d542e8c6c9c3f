import Retheme.Proofs.Expression.Agree
import Retheme.Proofs.Step.Success
import Retheme.Proofs.Value.Writing

/-!
# What an expression leads to

An expression leads to a value before this is written as a text: to the value at
its path, to the result of its call, and to nothing where its evaluation fails
in any way. Leading to a value never fails. Writing it may, and that is the only
way in which an evaluation fails.
-/

namespace Retheme.Expression

variable {functions : Registry} {site other : Site} {work : Workspace}

/-- The value an expression leads to. A failure on the way is reported and leads to nothing. -/
def lead (functions : Registry) (site : Site) : Step Workspace Value :=
  match parse site.expression with
  | .error malformed => do
    Workspace.event (.malformedExpression malformed.message)
    return .null
  | .ok (.path segments _) => return (site.theme.resolve? segments).getD .null
  | .ok (.call name args text) =>
    match Entries.get? name functions with
    | none => do
      Workspace.event (.unknownFunction name site.expression)
      return .null
    | some function => evaluateCall functions function site name args text

theorem evaluate_eq (functions : Registry) (site : Site) :
    evaluate functions site =
      lead functions site >>= fun value => Step.ofExcept value.declared? := by
  rw [evaluate, lead]
  cases parse site.expression with
  | error malformed => rfl
  | ok expression =>
    cases expression with
    | path segments text =>
      dsimp only
      cases site.theme.resolve? segments <;> rfl
    | call name args text =>
      dsimp only
      cases Entries.get? name functions <;> rfl

theorem succeeds_evaluateCall (function : Function) (name : Text) (args : List Node) (text : Text) :
    Step.Succeeds (evaluateCall functions function site name args text) work := by
  rw [Step.Succeeds, evaluateCall, Step.run_orElse]
  split
  · rfl
  · rfl

theorem succeeds_lead (functions : Registry) (site : Site) (work : Workspace) :
    Step.Succeeds (lead functions site) work := by
  rw [lead]
  split
  · rfl
  · rfl
  · split
    · rfl
    · exact succeeds_evaluateCall _ _ _ _

def led (functions : Registry) (site : Site) (work : Workspace) : Value × Workspace :=
  ((Step.run (lead functions site) work).1.toOption.getD .null,
    (Step.run (lead functions site) work).2)

theorem run_lead (functions : Registry) (site : Site) (work : Workspace) :
    Step.run (lead functions site) work =
      (.ok (led functions site work).1, (led functions site work).2) := by
  obtain ⟨value, h⟩ := (succeeds_lead functions site work).run_eq
  rw [led, h]
  rfl

theorem run_evaluate (functions : Registry) (site : Site) (work : Workspace) :
    Step.run (evaluate functions site) work =
      ((led functions site work).1.declared?, (led functions site work).2) := by
  rw [evaluate_eq, Step.run_bind, run_lead]
  rfl

theorem parse_of_callParts?_eq_none {text : Text} (h : callParts? text.strip = none) :
    parse text = .ok (.path (text.strip.split '.') text.strip) := by
  simp only [parse, h]

theorem parse_of_callParts?_eq_some {text name inner : Text}
    (h : callParts? text.strip = some (name, inner)) :
    parse text = (parseArguments inner).map fun args => .call name args text.strip := by
  simp only [parse, h]

theorem led_path {expression text : Text} {segments : List Text}
    (h : parse expression = .ok (.path segments text)) (theme : Theme) (source : Text)
    (position : Int) :
    led functions ⟨expression, theme, source, position⟩ work =
      ((theme.resolve? segments).getD .null, work) := by
  rw [led, lead, h]
  rfl

theorem run_evaluate_token {node : Node} {text : Text} {value : Value}
    (hp : parse site.expression = .ok (.call "printf" [.literal "%1", node] text))
    (hf : Entries.get? "printf" functions = some (.builtin .printf))
    (hr : Step.run (resolve functions site node) work = (.ok value, work)) (hv : value ≠ .null) :
    Step.run (evaluate functions site) work =
      match Function.declaredOrEmpty value with
      | .ok result => (.ok (some result), work)
      | .error _ => (.ok none, { work with log := work.log ++ [.functionFailed "printf"] }) := by
  have hargs : Step.run (resolveAll functions site [.literal "%1", node]) work =
      (.ok [.text "%1", value], work) := by
    simp only [resolveAll, resolve, Step.run_bind, Step.run_pure, hr]
  simp only [evaluate, hp, hf, evaluateCall, Step.run_bind, Step.run_orElse, hargs,
    Function.apply, Workspace.report, Step.run_within, Builtin.apply, Step.run_ofExcept,
    Function.printf_token hv]
  cases Function.declaredOrEmpty value <;> rfl

-- ---------------------------------------------------------------------------
-- Failures on the way
-- ---------------------------------------------------------------------------

inductive Fails (functions : Registry) (site : Site) (work : Workspace) : Prop
  | malformed {reason : Malformed} (h : parse site.expression = .error reason)
  | path {segments : List Text} {text : Text} (h : parse site.expression = .ok (.path segments text))
      (hr : site.theme.resolve? segments = none)
  | unknown {name text : Text} {args : List Node}
      (h : parse site.expression = .ok (.call name args text))
      (hn : Entries.get? name functions = none)
  | argument {name text : Text} {args : List Node} {function : Function} {failure : Failure}
      (h : parse site.expression = .ok (.call name args text))
      (hn : Entries.get? name functions = some function)
      (ha : (Step.run (resolveAll functions site args) work).1 = .error failure)
  | function {name text : Text} {args : List Node} {function : Function} {failure : Failure}
      {values : List Value} {after : Workspace}
      (h : parse site.expression = .ok (.call name args text))
      (hn : Entries.get? name functions = some function)
      (ha : Step.run (resolveAll functions site args) work = (.ok values, after))
      (hf : (Step.run (function.apply { site with expression := text } values) after).1 =
        .error failure)

theorem run_evaluateCall_error {function : Function} {args : List Node} {failure : Failure}
    {name text : Text}
    (h : (Step.run (resolveAll functions site args >>=
      function.apply { site with expression := text }) work).1 = .error failure) :
    (Step.run (evaluateCall functions function site name args text) work).1 = .ok .null := by
  rw [evaluateCall, Step.run_orElse]
  split
  · next hr =>
    rw [hr] at h
    cases h
  · rfl

theorem led_of_fails (h : Fails functions site work) : (led functions site work).1 = .null := by
  have hl : (Step.run (lead functions site) work).1 = .ok .null := by
    rw [lead]
    cases h with
    | malformed h => rw [h]; rfl
    | path h hr => rw [h]; simp only [hr]; rfl
    | unknown h hn => rw [h]; simp only [hn]; rfl
    | argument h hn ha =>
      rw [h]
      simp only [hn]
      exact run_evaluateCall_error (Step.run_bind_of_error ha)
    | function h hn ha hf =>
      rw [h]
      simp only [hn]
      refine run_evaluateCall_error ((congrArg Prod.fst ?_).trans hf)
      rw [Step.run_bind, ha]
  rw [led, hl]
  rfl

-- ---------------------------------------------------------------------------
-- Agreement
-- ---------------------------------------------------------------------------

open Step (Agree)
open Workspace (Indifferent Stable Like)

variable {rel : Workspace → Workspace → Prop} {inv : Workspace → Prop} {post : Value → Prop}

theorem agree_evaluateCall (h : Indifferent site.theme rel post) (hs : site.Beside other)
    {function : Function} {name text : Text} {args : List Node}
    (hn : Entries.get? name functions = some function)
    (hc : Congruent functions site other rel post (.call name args text)) :
    Agree rel post (evaluateCall functions function site name args text)
      (evaluateCall functions function other name args text) := by
  refine Agree.orElse ?_ ((h.agree_event _ _).bind fun _ _ => Agree.pure (h.result .null trivial))
  exact (agree_resolveAll h hs args fun node hm => hc.argument hn hm).bind fun values hv =>
    hc function text (.here hn) values hv

/-- Expressions at alike sites lead to the same value, which meets the condition. -/
theorem agree_lead (h : Indifferent site.theme rel post) (hs : site.Alike other)
    (hc : ∀ node, Congruent functions site other rel post node) :
    Agree rel post (lead functions site) (lead functions other) := by
  have hnull : Agree rel post (pure Value.null) (pure Value.null) :=
    Agree.pure (h.result .null trivial)
  rw [lead, lead, ← hs.expression, ← hs.theme]
  split
  · exact (h.agree_event _ _).bind fun _ _ => hnull
  · next segments text hp =>
    cases hr : site.theme.resolve? segments with
    | none => exact hnull
    | some value => exact Agree.pure (h.data segments value hr)
  · next name args text hp =>
    split
    · exact (h.agree_event _ _).bind fun _ _ => hnull
    · next function hn => exact agree_evaluateCall h hs.beside hn (hc _)

theorem agree_lead_of_isOwn (h : Stable site.theme inv post) (hs : site.Alike other)
    (hf : functions.IsOwn) :
    Agree (Like inv) post (lead functions site) (lead functions other) :=
  agree_lead h.indifferent hs (congruent_of_isOwn h hs hf)

end Retheme.Expression

-- ---------------------------------------------------------------------------
-- Values whose integers have doubles
-- ---------------------------------------------------------------------------

namespace Retheme

variable {theme : Theme}

structure Workspace.Fits (work : Workspace) : Prop where
  locals : ∀ name value, Entries.get? name work.locals = some value → value.Fits
  globals : ∀ name value, Entries.get? name work.globals = some value → value.Fits

theorem Theme.fits_of_resolve? (h : (Value.map theme.data).Fits) {segments : List Text}
    {value : Value} (hr : theme.resolve? segments = some value) : value.Fits := by
  cases segments with
  | nil => cases hr
  | cons first names =>
    rw [Theme.resolve?] at hr
    split at hr
    · exact h.walk hr
    · cases hr

theorem Variables.fits_assign {vars : Variables} {value : Value}
    (h : ∀ name value, Entries.get? name vars = some value → value.Fits) (hv : value.Fits)
    (name : Text) : ∀ other found, Entries.get? other (vars.assign name value) = some found →
      found.Fits := by
  intro other found hf
  rw [Variables.get?_assign] at hf
  split at hf
  · cases hf
    exact hv
  · exact h other found hf

theorem Workspace.stable_fits (h : (Value.map theme.data).Fits) :
    Stable theme Workspace.Fits Value.Fits where
  result _ := Value.fits_of_isTextOrNull
  data _ _ := Theme.fits_of_resolve? h
  localValue _ name value hw := hw.locals name value
  globalValue _ name value hw := hw.globals name value
  report _ _ hw := ⟨hw.locals, hw.globals⟩
  setLocal _ name _ hw hv := ⟨Variables.fits_assign hw.locals hv name, hw.globals⟩
  setGlobal _ name _ hw hv := ⟨hw.locals, Variables.fits_assign hw.globals hv name⟩
  register _ _ _ _ hw := ⟨hw.locals, hw.globals⟩

theorem Expression.led_fits {functions : Registry} {site : Site} {work : Workspace}
    (h : (Value.map site.theme.data).Fits) (hf : functions.IsOwn) (hw : work.Fits) :
    (led functions site work).1.Fits := by
  obtain ⟨-, -, hv⟩ := agree_lead_of_isOwn (Workspace.stable_fits h) (.refl site) hf
    work work (.refl hw)
  exact hv _ (congrArg Prod.fst (run_lead functions site work))

end Retheme
