import Retheme.Event
import Retheme.Failure

/-!
# Steps that report events and may fail

A step reads and changes a state and gives a value or a failure. What was
changed before a failure stays changed.
-/

namespace Retheme

/-- A step over a state. A failure keeps the state it was reached in. -/
abbrev Step (σ : Type) := ExceptT Failure (StateM σ)

namespace Step

variable {σ α β : Type}

def run (step : Step σ α) (state : σ) : Except Failure α × σ := StateT.run (ExceptT.run step) state

def ofExcept (result : Except Failure α) : Step σ α := fun state => (result, state)

def update (f : σ → σ) : Step σ Unit := fun state => (.ok (), f state)

def read (f : σ → α) : Step σ α := fun state => (.ok (f state), state)

/-- A step, and in place of a failure another one, from the state the failure was reached in. -/
def orElse (step handler : Step σ α) : Step σ α := fun state =>
  match run step state with
  | (.ok value, after) => (.ok value, after)
  | (.error _, after) => run handler after

theorem run_pure (value : α) (state : σ) : run (pure value) state = (.ok value, state) := rfl

theorem run_ofExcept (result : Except Failure α) (state : σ) :
    run (ofExcept result) state = (result, state) := rfl

theorem run_update (f : σ → σ) (state : σ) : run (update f) state = (.ok (), f state) := rfl

theorem run_read (f : σ → α) (state : σ) : run (read f) state = (.ok (f state), state) := rfl

theorem run_throw (failure : Failure) (state : σ) :
    run (throw failure : Step σ α) state = (.error failure, state) := rfl

theorem run_bind (step : Step σ α) (next : α → Step σ β) (state : σ) :
    run (step >>= next) state =
      match run step state with
      | (.ok value, after) => run (next value) after
      | (.error failure, after) => (.error failure, after) := by
  simp only [run, bind, ExceptT.bind, ExceptT.run, ExceptT.mk, StateT.run, StateT.bind]
  rcases step state with ⟨_ | _, _⟩ <;> rfl

theorem run_orElse (step handler : Step σ α) (state : σ) :
    run (orElse step handler) state =
      match run step state with
      | (.ok value, after) => (.ok value, after)
      | (.error _, after) => run handler after := rfl

def within {τ : Type} (get : τ → σ) (set : σ → τ → τ) (step : Step σ α) : Step τ α := fun state =>
  let (result, part) := run step (get state)
  (result, set part state)

theorem run_within {τ : Type} (get : τ → σ) (set : σ → τ → τ) (step : Step σ α) (state : τ) :
    run (within get set step) state =
      ((run step (get state)).1, set (run step (get state)).2 state) := rfl

end Step

abbrev Report := Step (List Event)

def Report.event (event : Event) : Report Unit := Step.update (· ++ [event])

end Retheme
