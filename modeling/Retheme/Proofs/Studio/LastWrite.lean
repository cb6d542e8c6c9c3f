import Retheme.Studio
import Retheme.Proofs.Expression.RoundTrip
import Retheme.Proofs.Expression.Trace
import Retheme.Proofs.Processor.Outcome

/-!
# Variables and their last writes

Processors evaluate expressions in any order. Each has variables of its own, and
all share others. Written down in one history, reads and calls explain each
other: a variable stands for the last value its processor gave it as one of its
own, else for the last value that any processor gave it as a shared one. One
name is never given a value and always stands for the declared one.

The history is followed happening by happening. Each happening keeps what the
variables of a workspace have to do with the history so far (`Recalls.perform`),
and a read in such a workspace is explained by the history before it.
-/

namespace Retheme

-- ---------------------------------------------------------------------------
-- Histories
-- ---------------------------------------------------------------------------

structure Evaluation where
  processor : Text
  site : Site

abbrev History := List (Text × Happening)

namespace Studio

def evaluate (studio : Studio) (evaluation : Evaluation) : Studio :=
  let site := evaluation.site
  (Step.run (within evaluation.processor
    (Processor.evaluate site.expression site.theme site.source site.position)) studio).2

def evaluateAll (studio : Studio) (evaluations : List Evaluation) : Studio :=
  evaluations.foldl evaluate studio

/-- What happens while an expression is evaluated, which is nothing without the processor. -/
def trace (studio : Studio) (evaluation : Evaluation) : List Happening :=
  match studio.processor? evaluation.processor with
  | some processor => Expression.traceOf processor.functions evaluation.site processor.work
  | none => []

def history (studio : Studio) : List Evaluation → History
  | [] => []
  | evaluation :: rest =>
    (studio.trace evaluation).map (Prod.mk evaluation.processor) ++
      history (studio.evaluate evaluation) rest

end Studio

/-- The value that a call with two arguments has for a variable. The reserved name is refused. -/
def Call.given? (name : Text) (call : Call) : Option Value :=
  match call.assigned? with
  | some (other, value) => if other = name ∧ other ≠ Variables.reserved then some value else none
  | none => none

def Happening.givenLocal? (name : Text) : Happening → Option Value
  | .read .. => none
  | .apply call =>
    match call.function with
    | .locals => call.given? name
    | _ => none

def Happening.givenGlobal? (name : Text) : Happening → Option Value
  | .read .. => none
  | .apply call =>
    match call.function with
    | .globals => call.given? name
    | _ => none

namespace Call

theorem given?_reserved (call : Call) : call.given? Variables.reserved = none := by
  rw [given?]
  split
  · simp
  · rfl

theorem get?_assign (call : Call) (name : Text) (vars : Variables) :
    Entries.get? name (call.assign vars) = (call.given? name).or (Entries.get? name vars) := by
  rw [assign, given?]
  cases call.assigned? with
  | none => rfl
  | some assigned =>
    obtain ⟨other, value⟩ := assigned
    dsimp only
    rw [Variables.get?_assign]
    split <;> rfl

theorem givenLocal?_of_ne {call : Call} (h : call.function ≠ .locals) (name : Text) :
    (Happening.apply call).givenLocal? name = none := by
  rw [Happening.givenLocal?]
  split
  · next hf => exact absurd hf h
  · rfl

theorem givenGlobal?_of_ne {call : Call} (h : call.function ≠ .globals) (name : Text) :
    (Happening.apply call).givenGlobal? name = none := by
  rw [Happening.givenGlobal?]
  split
  · next hf => exact absurd hf h
  · rfl

end Call

namespace History

def lastLocal? (processor name : Text) (history : History) : Option Value :=
  (history.filterMap fun entry =>
    if entry.1 = processor then entry.2.givenLocal? name else none).getLast?

def lastGlobal? (name : Text) (history : History) : Option Value :=
  (history.filterMap fun entry => entry.2.givenGlobal? name).getLast?

end History

def Site.declared (site : Site) : Value :=
  match Sheet.declaredValue? site.source (Sheet.offset site.source site.position) with
  | some value => .text value
  | none => .null

namespace History

def denoted (history : History) (processor : Text) (site : Site) (name text : Text) : Value :=
  match history.lastLocal? processor name, history.lastGlobal? name with
  | some value, _ => value
  | none, some value => value
  | none, none => if name = Variables.reserved then site.declared else .text text

variable {history front back : History} {processor other name : Text} {happening : Happening}

theorem lastLocal?_concat :
    lastLocal? processor name (history ++ [(processor, happening)]) =
      (happening.givenLocal? name).or (lastLocal? processor name history) := by
  simp only [lastLocal?, List.filterMap_append, List.getLast?_append]
  cases h : happening.givenLocal? name <;> simp [h]

theorem lastLocal?_append_of_ne (h : other ≠ processor) (happenings : List Happening) :
    lastLocal? processor name (history ++ happenings.map (Prod.mk other)) =
      lastLocal? processor name history := by
  have hn : (happenings.map (Prod.mk other)).filterMap (fun entry : Text × Happening =>
      if entry.1 = processor then entry.2.givenLocal? name else none) = [] := by
    simp [h]
  rw [lastLocal?, List.filterMap_append, hn, List.append_nil, lastLocal?]

theorem lastGlobal?_concat :
    lastGlobal? name (history ++ [(processor, happening)]) =
      (happening.givenGlobal? name).or (lastGlobal? name history) := by
  simp only [lastGlobal?, List.filterMap_append, List.getLast?_append]
  cases h : happening.givenGlobal? name <;> simp [h]

theorem lastLocal?_reserved (history : History) (processor : Text) :
    lastLocal? processor Variables.reserved history = none := by
  have hn (happening : Happening) : happening.givenLocal? Variables.reserved = none := by
    cases happening with
    | read => rfl
    | apply call =>
      rw [Happening.givenLocal?]
      split
      · exact call.given?_reserved
      · rfl
  simp [lastLocal?, hn]

theorem lastGlobal?_reserved (history : History) : lastGlobal? Variables.reserved history = none := by
  have hn (happening : Happening) : happening.givenGlobal? Variables.reserved = none := by
    cases happening with
    | read => rfl
    | apply call =>
      rw [Happening.givenGlobal?]
      split
      · exact call.given?_reserved
      · rfl
  simp [lastGlobal?, hn]

theorem denoted_reserved (history : History) (processor : Text) (site : Site) (text : Text) :
    history.denoted processor site Variables.reserved text = site.declared := by
  rw [denoted, lastLocal?_reserved, lastGlobal?_reserved]
  rfl

/-- After a history, all that is read is what it stands for at that time. -/
def Explains : History → History → Prop
  | _, [] => True
  | before, (processor, .read site name text outcome) :: rest =>
    outcome = .ok (denoted before processor site name text) ∧
      Explains (before ++ [(processor, .read site name text outcome)]) rest
  | before, entry :: rest => Explains (before ++ [entry]) rest

theorem explains_append (before front back : History) :
    Explains before (front ++ back) ↔
      Explains before front ∧ Explains (before ++ front) back := by
  induction front generalizing before with
  | nil => simp [Explains]
  | cons entry front ih =>
    obtain ⟨processor, _ | _⟩ := entry <;>
      simp only [List.cons_append, Explains, ih, List.append_assoc, List.nil_append, and_assoc]

theorem Explains.outcome_eq {before : History} {site : Site} {text : Text}
    {outcome : Except Failure Value}
    (h : before.Explains (front ++ (processor, .read site name text outcome) :: back)) :
    outcome = .ok ((before ++ front).denoted processor site name text) :=
  ((explains_append before front _).mp h).2.1

end History

-- ---------------------------------------------------------------------------
-- One evaluation
-- ---------------------------------------------------------------------------

structure Workspace.Recalls (processor : Text) (history : History) (work : Workspace) : Prop where
  locals : ∀ name, Entries.get? name work.locals = history.lastLocal? processor name
  globals : ∀ name, Entries.get? name work.globals = history.lastGlobal? name

namespace Workspace.Recalls

variable {processor : Text} {history : History} {work : Workspace} {functions : Registry}
  {site : Site}

theorem concat {happening : Happening} {after : Workspace} (h : work.Recalls processor history)
    (hl : ∀ name, Entries.get? name after.locals =
      (happening.givenLocal? name).or (Entries.get? name work.locals))
    (hg : ∀ name, Entries.get? name after.globals =
      (happening.givenGlobal? name).or (Entries.get? name work.globals)) :
    after.Recalls processor (history ++ [(processor, happening)]) where
  locals name := by rw [hl, h.locals, History.lastLocal?_concat]
  globals name := by rw [hg, h.globals, History.lastGlobal?_concat]

theorem perform (h : work.Recalls processor history) (happening : Happening) :
    (happening.perform work).Recalls processor (history ++ [(processor, happening)]) := by
  cases happening with
  | read => exact h.concat (fun _ => rfl) fun _ => rfl
  | apply call =>
    have hd := call.does_perform work
    rw [Happening.perform]
    generalize call.perform work = after at hd
    cases hd with
    -- Only a call of one of the two functions gives a variable a value.
    | setLocal hf =>
      refine h.concat (fun name => ?_) fun name => ?_
      · simp only [Happening.givenLocal?, hf, Call.get?_assign]
      · simp only [Happening.givenGlobal?, hf, Option.none_or]
    | setGlobal hf =>
      refine h.concat (fun name => ?_) fun name => ?_
      · simp only [Happening.givenLocal?, hf, Option.none_or]
      · simp only [Happening.givenGlobal?, hf, Call.get?_assign]
    | scope hf mode selector log hs =>
      refine h.concat (fun name => ?_) fun name => ?_
      · simp only [Happening.givenLocal?, hf, Option.none_or]
      · simp only [Happening.givenGlobal?, hf, Option.none_or]
    | report hl hg log =>
      refine h.concat (fun name => ?_) fun name => ?_
      · simp only [Call.givenLocal?_of_ne hl, Option.none_or]
      · simp only [Call.givenGlobal?_of_ne hg, Option.none_or]

theorem through (h : work.Recalls processor history) (happenings : List Happening) :
    (work.through happenings).Recalls processor
      (history ++ happenings.map (Prod.mk processor)) := by
  induction happenings generalizing work history with
  | nil => simpa [Workspace.through] using h
  | cons happening rest ih =>
    rw [List.map_cons, List.append_cons]
    exact ih (h.perform happening)

theorem run_variable (h : work.Recalls processor history) (name text : Text) :
    (Step.run (Expression.resolve functions site (.variable name text)) work).1 =
      .ok (history.denoted processor site name text) := by
  rw [Expression.resolve, Step.run_bind, Step.run_read, Variables.lookup?, h.locals, h.globals,
    History.denoted]
  cases history.lastLocal? processor name with
  | some value => rfl
  | none =>
    cases history.lastGlobal? name with
    | some value => rfl
    | none =>
      dsimp only [Option.or]
      split
      · rw [Site.declared]
        cases Sheet.declaredValue? site.source (Sheet.offset site.source site.position) <;> rfl
      · rfl

mutual
/-- What is read while an argument is resolved is explained by the history before. -/
theorem explains_trace (functions : Registry) (site : Site) {history : History} {work : Workspace}
    (h : work.Recalls processor history) : ∀ node : Node,
    history.Explains ((Expression.trace functions site work node).map (Prod.mk processor))
  | .literal text => by
    rw [Expression.trace]
    trivial
  | .variable name text => by
    rw [Expression.trace]
    exact ⟨h.run_variable name text, trivial⟩
  | .path segments text => by
    rw [Expression.trace]
    trivial
  | .call name args text => by
    rw [Expression.trace.eq_def]
    dsimp only
    cases Entries.get? name functions with
    | none => trivial
    | some function =>
      dsimp only
      rw [List.map_append, History.explains_append]
      refine ⟨explains_traceAll functions site h args, ?_⟩
      cases (Step.run (Expression.resolveAll functions site args) work).1 <;> trivial

theorem explains_traceAll (functions : Registry) (site : Site) {history : History}
    {work : Workspace} (h : work.Recalls processor history) : ∀ nodes : List Node,
    history.Explains ((Expression.traceAll functions site work nodes).map (Prod.mk processor))
  | [] => by
    rw [Expression.traceAll]
    trivial
  | node :: nodes => by
    have hn := Expression.state_resolve functions site work node
    rw [Expression.traceAll, List.map_append, History.explains_append]
    refine ⟨explains_trace functions site h node, ?_⟩
    cases hr : Step.run (Expression.resolve functions site node) work with
    | mk result after =>
      rw [hr] at hn
      cases result with
      | error => trivial
      | ok value =>
        refine explains_traceAll functions site ?_ nodes
        rw [show after = work.through _ from hn]
        exact h.through _
end

theorem explains_traceOf (h : work.Recalls processor history) (functions : Registry) (site : Site) :
    history.Explains ((Expression.traceOf functions site work).map (Prod.mk processor)) := by
  rw [Expression.traceOf]
  split
  · exact h.explains_trace functions site _
  · trivial

end Workspace.Recalls

-- ---------------------------------------------------------------------------
-- Many evaluations
-- ---------------------------------------------------------------------------

namespace Studio

/-- All processors share one store. No variable has a value. -/
structure Fresh (store : Text) (studio : Studio) : Prop where
  oneStore : ∀ name member, Entries.get? name studio.members = some member → member.store = store
  locals : ∀ name member, Entries.get? name studio.members = some member →
    member.processor.work.locals = []
  shared : studio.shared store = []

structure Recalls (store : Text) (history : History) (studio : Studio) : Prop where
  oneStore : ∀ name member, Entries.get? name studio.members = some member → member.store = store
  locals : ∀ name member, Entries.get? name studio.members = some member → ∀ var,
    Entries.get? var member.processor.work.locals = history.lastLocal? name var
  shared : ∀ var, Entries.get? var (studio.shared store) = history.lastGlobal? var

variable {store : Text} {studio : Studio} {history : History} {member : Member}

theorem Fresh.recalls (h : studio.Fresh store) : studio.Recalls store [] where
  oneStore := h.oneStore
  locals name member hm var := by
    rw [h.locals name member hm]
    rfl
  shared var := by
    rw [h.shared]
    rfl

def workOf (studio : Studio) (member : Member) : Workspace :=
  { member.processor.work with globals := studio.shared member.store }

theorem Recalls.workOf (h : studio.Recalls store history) {name : Text}
    (hm : Entries.get? name studio.members = some member) :
    (studio.workOf member).Recalls name history := by
  refine ⟨h.locals name member hm, fun var => ?_⟩
  rw [Studio.workOf, h.oneStore name member hm]
  exact h.shared var

theorem trace_eq (evaluation : Evaluation)
    (hm : Entries.get? evaluation.processor studio.members = some member) :
    studio.trace evaluation =
      Expression.traceOf member.processor.functions evaluation.site (studio.workOf member) := by
  rw [trace, processor?, hm]
  rfl

theorem run_within {α : Type} {name : Text} (step : Step Processor α)
    (hm : Entries.get? name studio.members = some member) :
    Step.run (within name step) studio =
      let (result, processor) :=
        Step.run step { member.processor with work := studio.workOf member }
      (result,
        { studio with
          members := Entries.set name { member with processor } studio.members
          stores := Entries.set member.store processor.work.globals studio.stores }) := by
  have hp : studio.processor? name =
      some { member.processor with work := studio.workOf member } := by
    rw [processor?, hm]
    rfl
  show within name step studio = _
  rw [within, hm, hp]

theorem run_within_of_none {α : Type} {name : Text} (step : Step Processor α)
    (hm : Entries.get? name studio.members = none) :
    Step.run (within name step) studio = (.error .wrongKind, studio) := by
  show within name step studio = _
  rw [within, hm]

theorem evaluate_eq_of_none (evaluation : Evaluation)
    (hm : Entries.get? evaluation.processor studio.members = none) :
    studio.evaluate evaluation = studio := by
  rw [evaluate, run_within_of_none _ hm]

theorem evaluate_eq_of_some (evaluation : Evaluation)
    (hm : Entries.get? evaluation.processor studio.members = some member) :
    ∃ log, ∀ work, work = (studio.workOf member).through (studio.trace evaluation) →
      studio.evaluate evaluation =
        { studio with
          members := Entries.set evaluation.processor
            { member with processor := { member.processor with work := { work with log } } }
            studio.members
          stores := Entries.set member.store work.globals studio.stores } := by
  obtain ⟨log, hl⟩ := Expression.exists_state_led member.processor.functions evaluation.site
    (studio.workOf member)
  refine ⟨log, ?_⟩
  rintro work rfl
  rw [evaluate]
  dsimp only
  rw [run_within _ hm, Processor.run_evaluate, Processor.led]
  dsimp only
  rw [hl, trace_eq evaluation hm]

theorem Recalls.evaluate (h : studio.Recalls store history) (evaluation : Evaluation) :
    (studio.evaluate evaluation).Recalls store
      (history ++ (studio.trace evaluation).map (Prod.mk evaluation.processor)) := by
  cases hm : Entries.get? evaluation.processor studio.members with
  | none =>
    have ht : studio.trace evaluation = [] := by
      rw [trace, processor?, hm]
      rfl
    rw [evaluate_eq_of_none evaluation hm, ht, List.map_nil, List.append_nil]
    exact h
  | some member =>
    obtain ⟨log, he⟩ := evaluate_eq_of_some evaluation hm
    have hw := (h.workOf hm).through (studio.trace evaluation)
    rw [he _ rfl]
    -- The other processors keep their variables, and nothing of theirs is in the trace.
    refine ⟨fun name other ho => ?_, fun name other ho => ?_, fun var => ?_⟩
    · rw [Entries.get?_set] at ho
      split at ho
      · cases ho
        exact h.oneStore _ member hm
      · exact h.oneStore name other ho
    · rw [Entries.get?_set] at ho
      split at ho
      · next hn =>
        cases ho
        rw [← hn]
        exact hw.locals
      · next hn =>
        intro var
        rw [History.lastLocal?_append_of_ne hn]
        exact h.locals name other ho var
    · rw [Studio.shared, h.oneStore _ _ hm, Entries.get?_set, if_pos rfl]
      exact hw.globals var

theorem Recalls.evaluateAll (h : studio.Recalls store history) (evaluations : List Evaluation) :
    (studio.evaluateAll evaluations).Recalls store
      (history ++ studio.history evaluations) := by
  induction evaluations generalizing studio history with
  | nil => simpa [Studio.history, Studio.evaluateAll] using h
  | cons evaluation rest ih =>
    rw [Studio.history, ← List.append_assoc]
    exact ih (h.evaluate evaluation)

theorem Recalls.explains (h : studio.Recalls store history) (evaluations : List Evaluation) :
    history.Explains (studio.history evaluations) := by
  induction evaluations generalizing studio history with
  | nil => trivial
  | cons evaluation rest ih =>
    rw [Studio.history, History.explains_append]
    refine ⟨?_, ih (h.evaluate evaluation)⟩
    cases hm : Entries.get? evaluation.processor studio.members with
    | none =>
      rw [trace, processor?, hm]
      trivial
    | some member =>
      rw [trace_eq evaluation hm]
      exact (h.workOf hm).explains_traceOf member.processor.functions evaluation.site

/-- In every order in which processors of one store evaluate expressions, a variable in an argument
stands for the last value its processor gave it, else for the last one that any processor gave it
as a shared one, else for the declared value or its own text. The reserved name never gets a value,
and so always stands for the declared one. -/
theorem read_last_write (h : studio.Fresh store) (evaluations : List Evaluation) :
    (∀ (front : History) processor site name text outcome back,
      studio.history evaluations = front ++ (processor, .read site name text outcome) :: back →
        outcome = .ok (front.denoted processor site name text) ∧
          (name = Variables.reserved → outcome = .ok site.declared)) ∧
      (∀ name member, Entries.get? name (studio.evaluateAll evaluations).members = some member →
        Entries.get? Variables.reserved member.processor.work.locals = none) ∧
      Entries.get? Variables.reserved ((studio.evaluateAll evaluations).shared store) = none := by
  have hr := h.recalls.evaluateAll evaluations
  refine ⟨?_, fun name member hm => ?_, ?_⟩
  · intro front processor site name text outcome back hs
    have he := h.recalls.explains evaluations
    rw [hs] at he
    refine ⟨he.outcome_eq, ?_⟩
    rintro rfl
    rw [he.outcome_eq, History.denoted_reserved]
  · rw [hr.locals name member hm, History.lastLocal?_reserved]
  · rw [hr.shared, History.lastGlobal?_reserved]

def pair : Studio where
  members :=
    [("left".toList, ⟨Processor.initial "left" [], "main"⟩),
      ("right".toList, ⟨Processor.initial "right" [], "main"⟩)]
  stores := []
  blocks := []

def sharing : Evaluation := ⟨"left", "global(a, x)", ⟨"demo", "dark", [], none⟩, [], 0⟩

def reading : Evaluation := ⟨"right", "local(b, %a%)", ⟨"demo", "dark", [], none⟩, [], 0⟩

theorem pair_fresh : pair.Fresh "main" := by
  have hm : ∀ name member, Entries.get? name pair.members = some member →
      member.store = "main".toList ∧ member.processor.work.locals = [] := by
    intro name member hm
    rcases List.mem_cons.mp (Entries.mem_of_get? hm) with he | he
    · cases he
      exact ⟨rfl, rfl⟩
    · cases List.mem_singleton.mp he
      exact ⟨rfl, rfl⟩
  exact ⟨fun name member h => (hm name member h).1, fun name member h => (hm name member h).2, rfl⟩

theorem trace_sharing :
    pair.trace sharing = [.apply ⟨.globals, sharing.site, [.text "a", .text "x"]⟩] := by
  have hp : Expression.parse sharing.site.expression =
      .ok (.call "global" [.literal "a", .literal "x"] "global(a, x)") :=
    @Expression.parse_leaves _ _ "a, x" ["a", "x"] (by decide +kernel) (by decide +kernel)
      (by decide +kernel)
  rw [trace_eq sharing rfl, Expression.traceOf, hp]
  rfl

theorem trace_reading : ∃ outcome back, (pair.evaluate sharing).trace reading =
    .read reading.site "a" "%a%" outcome :: back := by
  have hv : Expression.variableName? "%a%" = some "a".toList := by decide +kernel
  have hl : Expression.leaf "%a%" = .variable "a" "%a%" := by
    rw [Expression.leaf, hv]
  have hp : Expression.parse reading.site.expression =
      .ok (.call "local" [.literal "b", Expression.leaf "%a%"] "local(b, %a%)") :=
    @Expression.parse_leaves _ _ "b, %a%" ["b", "%a%"] (by decide +kernel) (by decide +kernel)
      (by decide +kernel)
  obtain ⟨log, he⟩ := @evaluate_eq_of_some pair _ sharing rfl
  rw [he _ rfl, trace_eq reading rfl, Expression.traceOf, hp, hl]
  exact ⟨_, _, rfl⟩

theorem read_last_write_pair :
    pair.Fresh "main" ∧ ∃ back, pair.history [sharing, reading] =
      ("left".toList, .apply ⟨.globals, sharing.site, [.text "a", .text "x"]⟩) ::
        ("right".toList, .read reading.site "a" "%a%" (.ok (.text "x"))) :: back := by
  obtain ⟨outcome, back, ht⟩ := trace_reading
  have hh : pair.history [sharing, reading] =
      [("left".toList, .apply ⟨.globals, sharing.site, [.text "a", .text "x"]⟩)] ++
        ("right".toList, .read reading.site "a" "%a%" outcome) ::
          back.map (Prod.mk "right".toList) := by
    rw [history, history, history, trace_sharing, ht, List.append_nil]
    rfl
  obtain ⟨ho, -⟩ := (read_last_write pair_fresh [sharing, reading]).1 _ _ _ _ _ _ _ hh
  have hd : History.denoted [("left".toList,
      .apply ⟨.globals, sharing.site, [.text "a", .text "x"]⟩)] "right" reading.site "a" "%a%" =
        .text "x" := rfl
  rw [hd] at ho
  exact ⟨pair_fresh, _, by rw [hh, ho]; rfl⟩

end Studio

end Retheme
