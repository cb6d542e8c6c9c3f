import Retheme.Step

/-!
# Steps that succeed

A step succeeds from a state when it gives a value there. A sequence succeeds
when its first step does and the rest does from where that leads.
-/

namespace Retheme.Step

variable {σ α β : Type} {step : Step σ α} {next : α → Step σ β} {state : σ}

/-- From a state a step gives a value and no failure. -/
def Succeeds (step : Step σ α) (state : σ) : Prop := (run step state).1.isOk = true

theorem Succeeds.run_eq (h : Succeeds step state) :
    ∃ value, run step state = (.ok value, (run step state).2) := by
  rw [Succeeds] at h
  cases hr : run step state with
  | mk result after =>
    rw [hr] at h
    cases result with
    | error => cases h
    | ok value => exact ⟨value, rfl⟩

theorem succeeds_of_run {value : α} {after : σ} (h : run step state = (.ok value, after)) :
    Succeeds step state := by
  rw [Succeeds, h]
  rfl

theorem succeeds_bind_iff :
    Succeeds (step >>= next) state ↔
      ∃ value after, run step state = (.ok value, after) ∧ Succeeds (next value) after := by
  rw [Succeeds, run_bind]
  cases run step state with
  | mk result after =>
    cases result with
    | error failure => exact iff_of_false Bool.false_ne_true (by simp)
    | ok value =>
      constructor
      · exact fun h => ⟨value, after, rfl, h⟩
      · rintro ⟨_, _, hr, h⟩
        cases hr
        exact h

theorem succeeds_bind (h : Succeeds step state)
    (hn : ∀ value after, run step state = (.ok value, after) → Succeeds (next value) after) :
    Succeeds (step >>= next) state := by
  obtain ⟨value, hr⟩ := h.run_eq
  exact succeeds_bind_iff.mpr ⟨value, _, hr, hn value _ hr⟩

theorem run_bind_of_error {failure : Failure} (h : (run step state).1 = .error failure) :
    (run (step >>= next) state).1 = .error failure := by
  rw [run_bind]
  revert h
  cases run step state with
  | mk result after =>
    rintro rfl
    rfl

end Retheme.Step
