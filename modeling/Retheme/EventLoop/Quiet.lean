import Retheme.EventLoop.Basic

/-!
# Event loops fall quiet

Every job makes less work than it does (`work_step_lt`), so running as many jobs
as there is work leaves none (`queue_settle`).
-/

namespace Retheme.EventLoop

-- ---------------------------------------------------------------------------
-- Changes of one task
-- ---------------------------------------------------------------------------

theorem totalDue_modify (tasks : List Task) (who : Nat) (task : Task) (change : Task → Task)
    (found : tasks[who]? = some task) :
    Task.totalDue (tasks.modify who change) + task.due =
      Task.totalDue tasks + (change task).due := by
  induction tasks generalizing who with
  | nil => simp at found
  | cons first rest ih =>
    cases who with
    | zero =>
      simp only [List.getElem?_cons_zero, Option.some.injEq] at found
      simp only [List.modify_zero_cons, Task.totalDue, found]
      omega
    | succ who =>
      have := ih who (by simpa using found)
      simp only [List.modify_succ_cons, Task.totalDue]
      omega

theorem work_post (job : Job) (loop : EventLoop) : (loop.post job).work = loop.work + 1 := by
  simp [work, post]
  omega

theorem work_setProgress (who : Nat) (progress : Task.Progress) (loop : EventLoop) (task : Task)
    (found : loop.tasks[who]? = some task) :
    (loop.setProgress who progress).work + task.due =
      loop.work + Task.due { task with progress } := by
  have := totalDue_modify loop.tasks who task (fun task => { task with progress }) found
  simp only [work, setProgress]
  omega

theorem work_wake (outcome : Outcome) (loop : EventLoop) (who : Nat) :
    (loop.wake outcome who).work = loop.work := by
  unfold wake
  split
  · rename_i purpose found
    have := work_setProgress who (.ending outcome) loop _ found
    simp only [Task.due] at this
    rw [work_post]
    omega
  · rfl

theorem work_wakeEach (outcome : Outcome) (tasks : List Nat) (loop : EventLoop) :
    (loop.wakeEach outcome tasks).work = loop.work := by
  induction tasks generalizing loop with
  | nil => rfl
  | cons who tasks ih => exact (ih _).trans (work_wake outcome loop who)

theorem work_onTheme (change : Lifecycle → Lifecycle) (loop : EventLoop) :
    (loop.onTheme change).work = loop.work := work_wakeEach ..

-- ---------------------------------------------------------------------------
-- Turns of tasks
-- ---------------------------------------------------------------------------

theorem work_finish (who : Nat) (outcome : Outcome) (loop : EventLoop) (task : Task)
    (found : loop.tasks[who]? = some task) :
    (loop.finish who task.purpose outcome).work + task.due ≤ loop.work + 1 := by
  have ended : (loop.setProgress who .finished).work + task.due = loop.work :=
    work_setProgress who .finished loop task found
  unfold finish
  dsimp only
  split
  · rw [work_post]
    omega
  · split
    · change (loop.setProgress who .finished).work + _ ≤ _
      omega
    · omega

theorem work_begin (who : Nat) (purpose : Task.Purpose) (loop : EventLoop)
    (found : loop.tasks[who]? = some ⟨purpose, .new⟩) :
    (loop.begin who purpose).work ≤ loop.work := by
  unfold begin
  split
  · rename_i address _
    dsimp only
    split
    · have := work_finish who ‹_› { loop with loaded := loop.loaded ++ [address] } _ found
      simp only [Task.due] at this
      exact Nat.le_of_add_le_add_right (Nat.le_trans this (by simp [work]))
    · have := work_setProgress who .waiting
        { loop with
          loaded := loop.loaded ++ [address]
          gates := Entries.set address (.closed (‹_› ++ [who])) loop.gates } _ found
      simp only [Task.due] at this
      exact Nat.le_of_eq (Nat.add_right_cancel this)
  · split
    · have := work_finish who .done loop _ found
      simp only [Task.due] at this
      omega
    · have := work_setProgress who .waiting { loop with life := loop.life.wait who } _ found
      simp only [Task.due] at this
      exact Nat.le_of_eq (Nat.add_right_cancel this)

theorem work_turn (who : Nat) (loop : EventLoop) : (loop.turn who).work ≤ loop.work := by
  unfold turn
  split
  · exact work_begin _ _ _ ‹_›
  · have := work_finish who ‹_› loop _ ‹_›
    simp only [Task.due] at this
    omega
  · exact Nat.le_refl _

-- ---------------------------------------------------------------------------
-- Jobs
-- ---------------------------------------------------------------------------

theorem work_run (loop : EventLoop) (job : Job) : (loop.run job).work ≤ loop.work := by
  cases job with
  | check => exact Nat.le_of_eq (work_onTheme ..)
  | turn who => exact work_turn who loop
  | resolve dependency outcome => exact Nat.le_of_eq (work_onTheme ..)

theorem work_step_lt (loop : EventLoop) (busy : loop.queue ≠ []) :
    loop.step.work < loop.work := by
  unfold step
  split
  · contradiction
  · rename_i job jobs queued
    refine Nat.lt_of_le_of_lt (work_run _ job) ?_
    simp [work, queued]

theorem steps_of_quiet (n : Nat) (loop : EventLoop) (quiet : loop.queue = []) :
    loop.steps n = loop := by
  induction n with
  | zero => rfl
  | succ n ih =>
    have still : loop.step = loop := by simp [step, quiet]
    rw [steps, still, ih]

theorem queue_steps (n : Nat) (loop : EventLoop) (enough : loop.work ≤ n) :
    (loop.steps n).queue = [] := by
  induction n generalizing loop with
  | zero =>
    have : loop.queue.length = 0 := by
      simp only [work] at enough
      omega
    simpa [steps] using this
  | succ n ih =>
    by_cases quiet : loop.queue = []
    · rw [steps_of_quiet _ loop quiet, quiet]
    · have := work_step_lt loop quiet
      exact ih _ (by omega)

/-- Nothing is left to run on a loop that fell quiet. -/
theorem queue_settle (loop : EventLoop) : loop.settle.queue = [] :=
  queue_steps loop.work loop (Nat.le_refl _)

end Retheme.EventLoop
