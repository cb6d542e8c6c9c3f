import Mathlib.Data.List.Induction
import Retheme.Theme.Lifecycle

/-!
# A theme becomes ready once

Whatever happens to a theme, and in whatever order: the count of dependencies
still loading is right, and the theme is ready from the moment at which the ready
check has run and nothing is loading. Until then every callback is queued and
everyone waits. At that moment the callbacks run in the order in which they were
registered and all who wait are woken; later callbacks run at once. So each
callback runs once, whether others before it give up or not.

The proof follows one signal: `step_standing` says what it keeps, and
`standing_after` follows by induction over the signals.
-/

namespace Retheme

-- ---------------------------------------------------------------------------
-- What a callback does in a ready theme
-- ---------------------------------------------------------------------------

def Action.isWhole : Action → Bool
  | done => true
  | fail => false
  | register _ inner next => inner.isWhole && next.isWhole
  | depend _ next => next.isWhole

/-- The labels that the actions note in a ready theme, where a registered callback runs at once. -/
def Action.noted : Action → List Text
  | done => []
  | fail => []
  | register label inner next => label :: inner.noted ++ if inner.isWhole then next.noted else []
  | depend _ next => next.noted

/-- The labels of one run of a callback: its own, and those of the callbacks registered in it. -/
def Callback.noted (callback : Callback) : List Text := callback.label :: callback.action.noted

namespace Lifecycle

def grown (labels added : List Text) (life : Lifecycle) : Lifecycle :=
  { life with
    calls := life.calls ++ labels
    dependencies := life.dependencies ++ added.map fun label => ⟨label, false⟩
    pending := life.pending + added.length }

theorem grown_nil (life : Lifecycle) : life.grown [] [] = life := by
  simp [grown]

theorem grown_grown (labels added labels' added' : List Text) (life : Lifecycle) :
    (life.grown labels added).grown labels' added' =
      life.grown (labels ++ labels') (added ++ added') := by
  simp [grown, Int.add_assoc]

theorem note_eq_grown (label : Text) (life : Lifecycle) : life.note label = life.grown [label] [] := by
  simp [note, grown]

theorem depend_eq_grown (label : Text) (life : Lifecycle) :
    life.depend label = life.grown [] [label] := by
  simp [depend, grown]

end Lifecycle

open Lifecycle (grown grown_nil grown_grown note_eq_grown depend_eq_grown)

theorem Action.run_ready (action : Action) {life : Lifecycle} (h : life.ready = true) :
    ∃ added, Step.run action.run life =
      (if action.isWhole then .ok () else .error .gaveUp, life.grown action.noted added) := by
  induction action generalizing life with
  | done => exact ⟨[], by simp [run, isWhole, noted, grown_nil, Step.run_pure]⟩
  | fail => exact ⟨[], by simp [run, isWhole, noted, grown_nil, Step.run_throw]⟩
  | register label inner next ihi ihn =>
    obtain ⟨first, hi⟩ := @ihi (life.grown [label] []) h
    simp only [run, Step.run_bind, Step.run_read, h, if_true, Step.run_update, note_eq_grown, hi]
    -- The inner callback runs at once, and ends the outer one if it gives up.
    cases hw : inner.isWhole with
    | false => exact ⟨first, by simp [isWhole, noted, hw, grown_grown]⟩
    | true =>
      obtain ⟨second, hn⟩ := @ihn ((life.grown [label] []).grown inner.noted first) h
      refine ⟨first ++ second, ?_⟩
      simp only [if_true]
      rw [hn, grown_grown, grown_grown]
      simp [isWhole, noted, hw]
  | depend label next ih =>
    obtain ⟨added, hn⟩ := @ih (life.grown [] [label]) h
    refine ⟨label :: added, ?_⟩
    simp only [run, Step.run_bind, Step.run_update, depend_eq_grown, hn, grown_grown]
    rfl

theorem Callback.run_ready (callback : Callback) {life : Lifecycle} (h : life.ready = true) :
    ∃ added, Step.run callback.run life =
      (if callback.action.isWhole then .ok () else .error .gaveUp,
        life.grown callback.noted added) := by
  obtain ⟨added, ha⟩ := @Action.run_ready callback.action (life.note callback.label) h
  refine ⟨added, ?_⟩
  simp only [run, Step.run_bind, Step.run_update, ha]
  simp [noted, note_eq_grown, grown_grown]

namespace Lifecycle

variable {theme : Text} {life : Lifecycle} {registered : List Callback} {asked : List Nat}

theorem runAll_ready (callbacks : List Callback) (h : life.ready = true) :
    ∃ added, runAll callbacks life =
      { life.grown (callbacks.flatMap Callback.noted) added with
        events := life.events ++ List.replicate
          (callbacks.countP fun callback => !callback.action.isWhole)
          (.callbackFailed life.theme) } := by
  induction callbacks generalizing life with
  | nil => exact ⟨[], by simp [runAll, grown_nil]⟩
  | cons callback rest ih =>
    obtain ⟨first, hc⟩ := callback.run_ready h
    rw [runAll, hc]
    cases hw : callback.action.isWhole with
    | true =>
      obtain ⟨more, hr⟩ := @ih (life.grown callback.noted first) h
      refine ⟨first ++ more, ?_⟩
      simp only [if_true, hr, grown_grown]
      simp [hw, grown]
    | false =>
      obtain ⟨more, hr⟩ :=
        @ih ((life.grown callback.noted first).event (.callbackFailed life.theme)) h
      refine ⟨first ++ more, ?_⟩
      simp only [Bool.false_eq_true, if_false]
      refine Eq.trans hr ?_
      simp [hw, grown, event, Int.add_assoc, List.replicate_succ]

theorem complete_eq (h : life.ready = false) :
    ∃ added, life.complete =
      { life.grown (life.callbacks.flatMap Callback.noted) added with
        ready := true
        callbacks := []
        waiters := []
        woken := life.woken ++ life.waiters
        events := life.events ++ .themeReady life.theme :: List.replicate
          (life.callbacks.countP fun callback => !callback.action.isWhole)
          (.callbackFailed life.theme) } := by
  let opened := event (.themeReady life.theme) { life with ready := true, callbacks := [] }
  obtain ⟨added, ha⟩ := @runAll_ready opened life.callbacks rfl
  refine ⟨added, ?_⟩
  simp only [complete, h, Bool.false_eq_true, if_false]
  refine (congrArg wakeAll ha).trans ?_
  simp [opened, wakeAll, event, grown]

-- ---------------------------------------------------------------------------
-- The count of dependencies
-- ---------------------------------------------------------------------------

theorem unresolved_grown (labels added : List Text) (life : Lifecycle) :
    (life.grown labels added).unresolved = life.unresolved + added.length := by
  simp [unresolved, grown, Function.comp_def]

theorem countP_set_resolved {dependencies : List Dependency} {number : Nat} {label : Text}
    (h : dependencies[number]? = some ⟨label, false⟩) :
    (dependencies.set number ⟨label, true⟩).countP (!·.resolved) + 1 =
      dependencies.countP (!·.resolved) := by
  induction dependencies generalizing number with
  | nil => cases h
  | cons first rest ih =>
    cases number with
    | zero =>
      obtain rfl : first = ⟨label, false⟩ := by simpa using h
      simp
    | succ number =>
      have := ih (by simpa using h)
      simp only [List.set_cons_succ, List.countP_cons]
      omega

-- ---------------------------------------------------------------------------
-- What every signal keeps
-- ---------------------------------------------------------------------------

/-- How a theme stands after callbacks were registered and some asked to wait before it was
ready. -/
structure Standing (theme : Text) (registered : List Callback) (asked : List Nat)
    (life : Lifecycle) : Prop where
  named : life.theme = theme
  counted : life.pending = life.unresolved
  calls : life.calls = if life.ready then registered.flatMap Callback.noted else []
  callbacks : life.callbacks = if life.ready then [] else registered
  woken : life.woken = if life.ready then asked else []
  waiters : life.waiters = if life.ready then [] else asked
  reported : life.events.count (.themeReady theme) = if life.ready then 1 else 0

theorem standing_initial (theme : Text) : (initial theme).Standing theme [] [] := by
  constructor <;> simp [initial, unresolved]

theorem Standing.grown (h : life.Standing theme registered asked) (hr : life.ready = true)
    {callback : Callback} (added : List Text) :
    (life.grown callback.noted added).Standing theme (registered ++ [callback]) asked where
  named := h.named
  counted := by
    rw [unresolved_grown]
    simp [Lifecycle.grown, h.counted]
  calls := by simp [Lifecycle.grown, h.calls, hr]
  callbacks := by simp [Lifecycle.grown, h.callbacks, hr]
  woken := h.woken
  waiters := h.waiters
  reported := h.reported

theorem Standing.complete (h : life.Standing theme registered asked) :
    life.complete.Standing theme registered asked := by
  cases hr : life.ready with
  | true => rwa [Lifecycle.complete, if_pos hr]
  | false =>
    obtain ⟨added, ha⟩ := complete_eq hr
    have hcalls : life.calls = [] := by simpa [hr] using h.calls
    have hcallbacks : life.callbacks = registered := by simpa [hr] using h.callbacks
    have hwoken : life.woken = [] := by simpa [hr] using h.woken
    have hwaiters : life.waiters = asked := by simpa [hr] using h.waiters
    have hreported : life.events.count (.themeReady theme) = 0 := by simpa [hr] using h.reported
    have hcounted : (life.complete).pending = (life.complete).unresolved := by
      have hu := unresolved_grown (life.callbacks.flatMap Callback.noted) added life
      rw [ha]
      simp only [unresolved, Lifecycle.grown] at hu ⊢
      have := h.counted
      simp only [unresolved] at this
      omega
    rw [ha] at hcounted ⊢
    refine ⟨h.named, hcounted, ?_, rfl, ?_, rfl, ?_⟩
    · simp [Lifecycle.grown, hcalls, hcallbacks]
    · simp [hwoken, hwaiters]
    · simp [h.named, hreported, List.count_replicate]

def Settled (life : Lifecycle) : Prop :=
  life.checkHeld = false → life.pending = 0 → life.ready = true

/-- A theme becomes ready from a state in which nothing is loading. What loads afterwards was added
by its callbacks. -/
structure Becomes (life next : Lifecycle) : Prop where
  opens : ∃ opened : Lifecycle, opened.pending = 0 ∧ opened.unresolved = 0 ∧
    opened.callbacks = life.callbacks ∧ opened.waiters = life.waiters ∧ next = opened.complete
  added : next.pending + life.dependencies.length = next.dependencies.length

/-- What becomes of a theme: it does not go back, and becomes ready only while nothing is loading. -/
structure Advances (life next : Lifecycle) : Prop where
  stays : life.ready = true → next.ready = true
  becomes : life.ready = false → next.ready = true → life.Becomes next

theorem Advances.of_ready_eq {next : Lifecycle} (h : next.ready = life.ready) :
    life.Advances next where
  stays hr := h.trans hr
  becomes hr ht := absurd ht (by simp [h, hr])

theorem Advances.of_before {before next : Lifecycle} (h : before.Advances next)
    (hr : before.ready = life.ready) (hc : before.callbacks = life.callbacks)
    (hw : before.waiters = life.waiters)
    (hd : before.dependencies.length = life.dependencies.length) : life.Advances next where
  stays ht := h.stays (hr.trans ht)
  becomes ht hn := by
    obtain ⟨⟨opened, hp, hu, hoc, how, he⟩, ha⟩ := h.becomes (hr.trans ht) hn
    exact ⟨⟨opened, hp, hu, hoc.trans hc, how.trans hw, he⟩, hd ▸ ha⟩

theorem ready_complete (life : Lifecycle) : life.complete.ready = true := by
  cases hr : life.ready with
  | true => rwa [Lifecycle.complete, if_pos hr]
  | false =>
    obtain ⟨added, ha⟩ := complete_eq hr
    rw [ha]

theorem checkHeld_check (life : Lifecycle) : life.check.checkHeld = life.checkHeld := by
  rw [check]
  split
  · cases hr : life.ready with
    | true => rw [complete, if_pos hr]
    | false =>
      obtain ⟨added, ha⟩ := complete_eq hr
      rw [ha]
      rfl
  · rfl

theorem Standing.check (h : life.Standing theme registered asked) :
    life.check.Standing theme registered asked ∧ life.check.Settled ∧
      life.Advances life.check := by
  rw [Lifecycle.check]
  split
  · next hp =>
    have hr := ready_complete life
    refine ⟨h.complete, fun _ _ => hr, fun _ => hr, fun hr _ => ⟨⟨life, hp, ?_, rfl, rfl, rfl⟩, ?_⟩⟩
    · have := h.counted
      omega
    · obtain ⟨added, ha⟩ := complete_eq hr
      rw [ha]
      simp [Lifecycle.grown, hp, Int.add_comm]
  · next hp => exact ⟨h, fun _ hz => absurd hz hp, .of_ready_eq rfl⟩

-- ---------------------------------------------------------------------------
-- Signals
-- ---------------------------------------------------------------------------

/-- A lifecycle after a signal. One that fails leaves what it changed. -/
def next (signal : Signal) (life : Lifecycle) : Lifecycle := (Step.run signal.step life).2

def Signal.callback? : Signal → Option Callback
  | .onComplete callback => some callback
  | _ => none

/-- Who asks to wait by a signal: someone in a theme that is not ready. -/
def Signal.asks (life : Lifecycle) : Signal → List Nat
  | .wait who => if life.ready then [] else [who]
  | _ => []

theorem next_turn (life : Lifecycle) : next .turn life = life.turn := rfl

theorem next_depend (label : Text) (life : Lifecycle) :
    next (.depend label) life = life.depend label := rfl

theorem next_resolve (number : Nat) (life : Lifecycle) :
    next (.resolve number) life = life.resolve number := rfl

theorem next_wait (who : Nat) (life : Lifecycle) : next (.wait who) life = life.wait who := rfl

theorem next_onComplete_ready (callback : Callback) (hr : life.ready = true) :
    ∃ added, next (.onComplete callback) life = life.grown callback.noted added := by
  obtain ⟨added, ha⟩ := callback.run_ready hr
  refine ⟨added, ?_⟩
  simp only [next, Signal.step, onComplete, Step.run_bind, Step.run_read, hr, if_true, ha]

theorem next_onComplete_held (callback : Callback) (hr : life.ready = false) :
    next (.onComplete callback) life = life.enqueue callback := by
  simp [next, Signal.step, onComplete, Step.run_bind, Step.run_read, hr, Step.run_update]

theorem Standing.depend (h : life.Standing theme registered asked) (label : Text) :
    (life.depend label).Standing theme registered asked where
  named := h.named
  counted := by
    rw [depend_eq_grown, unresolved_grown]
    simp [Lifecycle.grown, h.counted]
  calls := h.calls
  callbacks := h.callbacks
  woken := h.woken
  waiters := h.waiters
  reported := h.reported

theorem Standing.enqueue (h : life.Standing theme registered asked) (hr : life.ready = false)
    (callback : Callback) :
    (life.enqueue callback).Standing theme (registered ++ [callback]) asked where
  named := h.named
  counted := h.counted
  calls := by simpa [Lifecycle.enqueue, hr] using h.calls
  callbacks := by simp [Lifecycle.enqueue, hr, h.callbacks]
  woken := by simpa [Lifecycle.enqueue, hr] using h.woken
  waiters := by simpa [Lifecycle.enqueue, hr] using h.waiters
  reported := h.reported

theorem Standing.resolved (h : life.Standing theme registered asked) {number : Nat} {label : Text}
    (hd : life.dependencies[number]? = some ⟨label, false⟩) :
    Standing theme registered asked
      { life with
        dependencies := life.dependencies.set number ⟨label, true⟩
        pending := life.pending - 1 } where
  named := h.named
  counted := by
    have hc := countP_set_resolved hd
    have hp := h.counted
    simp only [unresolved] at hp ⊢
    omega
  calls := h.calls
  callbacks := h.callbacks
  woken := h.woken
  waiters := h.waiters
  reported := h.reported

theorem Standing.wait (h : life.Standing theme registered asked) (who : Nat) :
    (life.wait who).Standing theme registered (asked ++ Signal.asks life (.wait who)) := by
  cases hr : life.ready with
  | true => simpa [Lifecycle.wait, Signal.asks, hr] using h
  | false =>
    have hw : life.waiters = asked := by simpa [hr] using h.waiters
    simp only [Lifecycle.wait, Signal.asks, hr, Bool.false_eq_true, if_false]
    exact ⟨h.named, h.counted, by simpa [hr] using h.calls, by simpa [hr] using h.callbacks,
      by simpa [hr] using h.woken, by simp [hw], by simpa [hr] using h.reported⟩

/-- A signal keeps how the theme stands, and a theme that becomes ready by it does so while nothing
is loading. -/
theorem step_standing (h : life.Standing theme registered asked) (hs : life.Settled)
    (signal : Signal) :
    (next signal life).Standing theme (registered ++ signal.callback?.toList)
        (asked ++ signal.asks life) ∧
      (next signal life).Settled ∧ life.Advances (next signal life) ∧
      ((next signal life).checkHeld = false ↔ life.checkHeld = false ∨ signal = .turn) := by
  cases signal with
  | turn =>
    simp only [Signal.callback?, Signal.asks, Option.toList_none, List.append_nil]
    rw [next_turn, Lifecycle.turn]
    -- Only the first turn runs the check.
    split
    · have hl : Standing theme registered asked { life with checkHeld := false } :=
        ⟨h.named, h.counted, h.calls, h.callbacks, h.woken, h.waiters, h.reported⟩
      obtain ⟨hst, hse, ha⟩ := hl.check
      exact ⟨hst, hse, ha.of_before rfl rfl rfl rfl, by simp [checkHeld_check]⟩
    · next hc => exact ⟨h, hs, .of_ready_eq rfl, by simp [hc]⟩
  | depend label =>
    simp only [Signal.callback?, Signal.asks, Option.toList_none, List.append_nil]
    rw [next_depend]
    -- One more is loading, so that the count is not zero.
    refine ⟨h.depend label, fun _ hz => ?_, .of_ready_eq rfl, by simp [Lifecycle.depend]⟩
    have hp : life.pending + 1 = 0 := hz
    have := h.counted
    omega
  | resolve number =>
    simp only [Signal.callback?, Signal.asks, Option.toList_none, List.append_nil]
    rw [next_resolve, Lifecycle.resolve.eq_def]
    -- Resolving again changes nothing.
    split
    · next label hd =>
      obtain ⟨hst, hse, ha⟩ := (h.resolved hd).check
      exact ⟨hst, hse, ha.of_before rfl rfl rfl List.length_set, by simp [checkHeld_check]⟩
    · exact ⟨h, hs, .of_ready_eq rfl, by simp⟩
  | onComplete callback =>
    simp only [Signal.callback?, Signal.asks, Option.toList_some, List.append_nil]
    cases hr : life.ready with
    | true =>
      obtain ⟨added, ha⟩ := next_onComplete_ready callback hr
      rw [ha]
      exact ⟨h.grown hr added, fun _ _ => hr, .of_ready_eq rfl, by simp [grown]⟩
    | false =>
      rw [next_onComplete_held callback hr]
      exact ⟨h.enqueue hr callback, hs, .of_ready_eq rfl, by simp [enqueue]⟩
  | wait who =>
    obtain ⟨hr, hp, hc⟩ : (life.wait who).ready = life.ready ∧
        (life.wait who).pending = life.pending ∧ (life.wait who).checkHeld = life.checkHeld := by
      rw [Lifecycle.wait]
      split <;> exact ⟨rfl, rfl, rfl⟩
    simp only [Signal.callback?, Option.toList_none, List.append_nil]
    rw [next_wait]
    refine ⟨h.wait who, ?_, .of_ready_eq hr, by simp [hc]⟩
    rw [Settled, hr, hp, hc]
    exact hs

-- ---------------------------------------------------------------------------
-- Runs
-- ---------------------------------------------------------------------------

def after (signals : List Signal) (life : Lifecycle) : Lifecycle :=
  signals.foldl (fun life signal => next signal life) life

def askers (signals : List Signal) (life : Lifecycle) : List Nat :=
  match signals with
  | [] => []
  | signal :: rest => signal.asks life ++ askers rest (next signal life)

theorem after_concat (signals : List Signal) (signal : Signal) (life : Lifecycle) :
    after (signals ++ [signal]) life = next signal (after signals life) := by
  simp [after]

theorem askers_concat (signals : List Signal) (signal : Signal) (life : Lifecycle) :
    askers (signals ++ [signal]) life =
      askers signals life ++ signal.asks (after signals life) := by
  induction signals generalizing life with
  | nil => simp [askers, after]
  | cons first rest ih => simp [askers, ih, after]

theorem standing_after (theme : Text) (signals : List Signal) :
    (after signals (initial theme)).Standing theme (signals.filterMap Signal.callback?)
        (askers signals (initial theme)) ∧
      (after signals (initial theme)).Settled ∧
      ((after signals (initial theme)).checkHeld = false ↔ .turn ∈ signals) := by
  -- From the right: who asks by a signal depends on the state before it.
  induction signals using List.reverseRecOn with
  | nil => exact ⟨standing_initial theme, nofun, by simp [after, initial]⟩
  | append_singleton signals signal ih =>
    obtain ⟨hst, hse, hc⟩ := ih
    obtain ⟨hst, hse, -, hh⟩ := step_standing hst hse signal
    rw [after_concat, askers_concat, List.filterMap_append]
    refine ⟨?_, hse, ?_⟩
    · cases hcb : signal.callback? <;> simpa [hcb] using hst
    · rw [hh, hc]
      simp [eq_comm]

/-- After any signals in any order: the count is that of the dependencies not yet resolved, the theme
is ready if the check has run and nothing is loading, and it was reported ready once or never. Each
registered callback has run once, in the order of registration, if the theme is ready, and none
otherwise. Who asked to wait is woken once it is ready. One more signal does not make a ready theme
unready, and makes it ready only while nothing is loading. -/
theorem ready_once (theme : Text) (signals : List Signal) :
    let life := after signals (initial theme)
    let registered := signals.filterMap Signal.callback?
    let asked := askers signals (initial theme)
    (life.pending = life.unresolved ∧ 0 ≤ life.pending) ∧
      (.turn ∈ signals → life.pending = 0 → life.ready = true) ∧
      life.events.count (.themeReady theme) = (if life.ready then 1 else 0) ∧
      life.calls = (if life.ready then registered.flatMap Callback.noted else []) ∧
      life.callbacks = (if life.ready then [] else registered) ∧
      life.woken = (if life.ready then asked else []) ∧
      life.waiters = (if life.ready then [] else asked) ∧
      ∀ signal, life.Advances (next signal life) := by
  obtain ⟨hst, hse, hc⟩ := standing_after theme signals
  refine ⟨⟨hst.counted, ?_⟩, fun ht => hse (hc.mpr ht), hst.reported, hst.calls, hst.callbacks,
    hst.woken, hst.waiters, fun signal => (step_standing hst hse signal).2.2.1⟩
  have := hst.counted
  omega

end Lifecycle

end Retheme
