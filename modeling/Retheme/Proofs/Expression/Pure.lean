import Retheme.Proofs.Expression.Trace

/-!
# Expressions that change nothing

An expression is pure when no function that its evaluation can come to works on
variables or custom scopes or comes from outside. Calls of unknown functions are
texts, so nothing inside of them matters. A pure expression only reports, and
what it leads to does not depend on earlier reports.
-/

namespace Retheme.Expression

variable {functions : Registry} {site : Site} {work : Workspace} {call : Call}

mutual
/-- Whether all calls in an argument are of built-in functions, as far as they are looked at. -/
def isPureNode (functions : Registry) : Node → Bool
  | .literal _ | .variable _ _ | .path _ _ => true
  | .call name args _ =>
    match Entries.get? name functions with
    | none => true
    | some (.builtin _) => arePureNodes functions args
    | some _ => false

def arePureNodes (functions : Registry) : List Node → Bool
  | [] => true
  | node :: nodes => isPureNode functions node && arePureNodes functions nodes
end

def isPure (functions : Registry) (expression : Text) : Bool :=
  match parse expression with
  | .ok (.call name args text) => isPureNode functions (.call name args text)
  | _ => true

theorem isPureNode_of_mem {nodes : List Node} {node : Node}
    (h : arePureNodes functions nodes = true) (hm : node ∈ nodes) :
    isPureNode functions node = true := by
  induction nodes with
  | nil => cases hm
  | cons first rest ih =>
    rw [arePureNodes, Bool.and_eq_true] at h
    rcases List.mem_cons.mp hm with rfl | hm
    · exact h.1
    · exact ih h.2 hm

theorem Reaches.builtin {function : Function} {text : Text} {node : Node}
    (h : Reaches functions function text node) (hp : isPureNode functions node = true) :
    ∃ own, function = .builtin own := by
  induction h with
  | here hf =>
    rw [isPureNode.eq_def] at hp
    dsimp only at hp
    rw [hf] at hp
    cases function with
    | builtin own => exact ⟨own, rfl⟩
    | _ => cases hp
  | inside hf hm _ ih =>
    rw [isPureNode.eq_def] at hp
    dsimp only at hp
    rw [hf] at hp
    split at hp
    · next hn => cases hn
    · exact ih (isPureNode_of_mem hp hm)
    · cases hp

theorem builtin_of_mem_traceOf (hp : isPure functions site.expression = true)
    (h : .apply call ∈ traceOf functions site work) : ∃ own, call.function = .builtin own := by
  obtain ⟨name, args, text, inner, he, -, hr⟩ := apply_mem_traceOf h
  rw [isPure, he] at hp
  exact hr.builtin hp

theorem exists_through_eq {happenings : List Happening}
    (h : ∀ call, .apply call ∈ happenings → ∃ function, call.function = .builtin function) :
    ∃ log, work.through happenings = { work with log } := by
  induction happenings generalizing work with
  | nil => exact ⟨work.log, rfl⟩
  | cons happening rest ih =>
    have hr : ∀ call, .apply call ∈ rest → ∃ function, call.function = .builtin function :=
      fun call hm => h call (List.mem_cons_of_mem _ hm)
    cases happening with
    | read => exact ih hr
    | apply call =>
      obtain ⟨log, hl⟩ := call.exists_perform_of_builtin (h call List.mem_cons_self) work
      obtain ⟨last, hlast⟩ := @ih { work with log } hr
      refine ⟨last, ?_⟩
      rw [Workspace.through, List.foldl_cons, Happening.perform, hl]
      exact hlast

theorem exists_led_eq (hp : isPure functions site.expression = true) :
    ∃ log, (led functions site work).2 = { work with log } := by
  obtain ⟨log, hl⟩ := exists_state_led functions site work
  obtain ⟨log', ht⟩ := @exists_through_eq work _ fun _ => @builtin_of_mem_traceOf _ _ work _ hp
  refine ⟨log, ?_⟩
  rw [hl, ht]

theorem led_of_reported (hf : functions.IsOwn) (site : Site) (work : Workspace) (log : List Event) :
    (led functions site { work with log }).1 = (led functions site work).1 := by
  obtain ⟨he, -, -⟩ := agree_lead_of_isOwn (Workspace.stable_true site.theme) (.refl site) hf work
    { work with log } ⟨trivial, log, rfl⟩
  rw [led, led, he]

end Retheme.Expression
