import Retheme.Step

/-!
# Steps that agree

Two steps agree when from related states they give the same value or failure
and reach related states. A step that agrees with itself keeps what the relation
says of a single state, whether it fails or not.
-/

namespace Retheme.Step

variable {σ τ α β : Type} {rel : σ → σ → Prop} {post mid : α → Prop} {goal : β → Prop}
  {step other handler rescue : Step σ α} {next after : α → Step σ β}

/-- From related states two steps have the same outcome, which meets a condition if it is a value,
and reach related states. -/
def Agree (rel : σ → σ → Prop) (post : α → Prop) (step other : Step σ α) : Prop :=
  ∀ s t, rel s t → (run step s).1 = (run other t).1 ∧ rel (run step s).2 (run other t).2 ∧
    ∀ value, (run step s).1 = .ok value → post value

namespace Agree

theorem mono (h : Agree rel mid step other) (hp : ∀ value, mid value → post value) :
    Agree rel post step other := by
  intro s t hst
  obtain ⟨he, hr, hv⟩ := h s t hst
  exact ⟨he, hr, fun value hs => hp value (hv value hs)⟩

theorem pure {value : α} (h : post value) :
    Agree rel post (Pure.pure value) (Pure.pure value) := by
  intro s t hst
  refine ⟨rfl, hst, fun result hr => ?_⟩
  cases hr
  exact h

theorem ofExcept {result : Except Failure α} (h : ∀ value, result = .ok value → post value) :
    Agree rel post (Step.ofExcept result) (Step.ofExcept result) :=
  fun _ _ hst => ⟨rfl, hst, h⟩

theorem read {f g : σ → α} (h : ∀ s t, rel s t → f s = g t ∧ post (f s)) :
    Agree rel post (Step.read f) (Step.read g) := by
  intro s t hst
  obtain ⟨he, hp⟩ := h s t hst
  refine ⟨congrArg Except.ok he, hst, fun value hv => ?_⟩
  cases hv
  exact hp

theorem update {f g : σ → σ} (h : ∀ s t, rel s t → rel (f s) (g t)) :
    Agree rel (fun _ => True) (Step.update f) (Step.update g) :=
  fun s t hst => ⟨rfl, h s t hst, fun _ _ => trivial⟩

theorem bind (h : Agree rel mid step other)
    (hn : ∀ value, mid value → Agree rel goal (next value) (after value)) :
    Agree rel goal (step >>= next) (other >>= after) := by
  intro s t hst
  obtain ⟨he, hr, hv⟩ := h s t hst
  rw [run_bind, run_bind]
  cases hs : Step.run step s with
  | mk result s' =>
    cases ht : Step.run other t with
    | mk result' t' =>
      rw [hs, ht] at he hr
      rw [hs] at hv
      obtain rfl : result = result' := he
      cases result with
      | error failure => exact ⟨rfl, hr, nofun⟩
      | ok value => exact hn value (hv value rfl) s' t' hr

theorem orElse (h : Agree rel post step other) (hh : Agree rel post handler rescue) :
    Agree rel post (Step.orElse step handler) (Step.orElse other rescue) := by
  intro s t hst
  obtain ⟨he, hr, hv⟩ := h s t hst
  rw [run_orElse, run_orElse]
  cases hs : Step.run step s with
  | mk result s' =>
    cases ht : Step.run other t with
    | mk result' t' =>
      rw [hs, ht] at he hr
      rw [hs] at hv
      obtain rfl : result = result' := he
      cases result with
      | error failure => exact hh s' t' hr
      | ok value => exact ⟨rfl, hr, hv⟩

theorem within {whole : τ → τ → Prop} {get : τ → σ} {set : σ → τ → τ}
    (h : Agree rel post step other) (hget : ∀ s t, whole s t → rel (get s) (get t))
    (hset : ∀ s t p q, whole s t → rel p q → whole (set p s) (set q t)) :
    Agree whole post (Step.within get set step) (Step.within get set other) := by
  intro s t hst
  obtain ⟨he, hr, hv⟩ := h _ _ (hget s t hst)
  rw [run_within, run_within]
  exact ⟨he, hset s t _ _ hst hr, hv⟩

end Agree

end Retheme.Step
