import Retheme.Entries
import Retheme.Theme.Lifecycle

/-!
# Event loops

An event loop runs jobs one after the other, the earliest first: the ready check
of a theme, the turns of tasks, and the ends of what the theme depends on. A task
loads an address or waits for the theme. A loading task stops at the gate of its
address until that is opened; all tasks of one address share the gate.

A loop falls quiet: a task asks for two jobs at most after its first, so the work
that is left bounds the jobs to run.
-/

namespace Retheme

-- ---------------------------------------------------------------------------
-- Tasks, gates and jobs
-- ---------------------------------------------------------------------------

inductive Outcome where
  | done
  | failed
  | cancelled
  deriving DecidableEq, Repr

inductive Task.Purpose where
  /-- It loads an address, on which the theme depends under a number. -/
  | load (address : Text) (dependency : Nat)
  /-- It waits for the theme and then notes a label. -/
  | wait (label : Text)
  deriving DecidableEq, Repr

inductive Task.Progress where
  /-- Its first turn is to come. -/
  | new
  /-- It waits to be woken. -/
  | waiting
  /-- It ends at its next turn. -/
  | ending (outcome : Outcome)
  | finished
  deriving DecidableEq, Repr

structure Task where
  purpose : Task.Purpose
  progress : Task.Progress
  deriving DecidableEq, Repr

def Task.due (task : Task) : Nat :=
  match task.progress with
  | .new | .waiting => 2
  | .ending _ => 1
  | .finished => 0

def Task.totalDue : List Task → Nat
  | [] => 0
  | task :: tasks => task.due + totalDue tasks

inductive Gate where
  /-- Tasks wait at it, the first first. -/
  | closed (waiting : List Nat)
  | opened (outcome : Outcome)
  deriving DecidableEq, Repr

inductive Job where
  /-- The ready check. -/
  | check
  /-- A turn of a task. -/
  | turn (task : Nat)
  /-- The end of a dependency. -/
  | resolve (dependency : Nat) (outcome : Outcome)
  deriving DecidableEq, Repr

-- ---------------------------------------------------------------------------
-- The state
-- ---------------------------------------------------------------------------

structure EventLoop where
  life : Lifecycle
  /-- The jobs to run, the first first. -/
  queue : List Job
  /-- All tasks so far; the place of one is its number. -/
  tasks : List Task
  gates : Entries Gate
  /-- The addresses of which loading was begun. -/
  loaded : List Text

namespace EventLoop

def post (job : Job) (loop : EventLoop) : EventLoop := { loop with queue := loop.queue ++ [job] }

def setProgress (who : Nat) (progress : Task.Progress) (loop : EventLoop) : EventLoop :=
  { loop with tasks := loop.tasks.modify who fun task => { task with progress } }

def wake (outcome : Outcome) (loop : EventLoop) (who : Nat) : EventLoop :=
  match loop.tasks[who]? with
  | some { progress := .waiting, .. } =>
    (loop.setProgress who (.ending outcome)).post (.turn who)
  | _ => loop

def wakeEach (outcome : Outcome) (tasks : List Nat) (loop : EventLoop) : EventLoop :=
  tasks.foldl (wake outcome) loop

-- ---------------------------------------------------------------------------
-- What can be asked of a loop
-- ---------------------------------------------------------------------------

def onTheme (change : Lifecycle → Lifecycle) (loop : EventLoop) : EventLoop :=
  let life := change loop.life
  { loop with life }.wakeEach .done (life.woken.drop loop.life.woken.length)

def start (purpose : Task.Purpose) (loop : EventLoop) : EventLoop :=
  let task : Task := { purpose, progress := .new }
  { loop with tasks := loop.tasks ++ [task] }.post (.turn loop.tasks.length)

def track (address : Text) (loop : EventLoop) : EventLoop :=
  { loop with life := loop.life.depend address }.start
    (.load address loop.life.dependencies.length)

/-- Addresses are loaded as dependencies of the theme; empty ones are passed over. -/
def preload (addresses : List Text) (loop : EventLoop) : EventLoop :=
  (addresses.filter (!·.isEmpty)).foldl (fun loop address => loop.track address) loop

/-- A theme on a new loop, with addresses to preload. Nothing has run yet. -/
def initial (theme : Text) (addresses : List Text) : EventLoop :=
  { life := .initial theme, queue := [.check], tasks := [], gates := [], loaded := [] : EventLoop
    }.preload addresses

def wait (label : Text) (loop : EventLoop) : EventLoop := loop.start (.wait label)

def gate (address : Text) (loop : EventLoop) : Gate :=
  (Entries.get? address loop.gates).getD (.closed [])

/-- A gate is opened with an outcome for all who wait at it or come later. It opens once. -/
def openGate (address : Text) (outcome : Outcome) (loop : EventLoop) : EventLoop :=
  match loop.gate address with
  | .closed waiting =>
    { loop with gates := Entries.set address (.opened outcome) loop.gates }.wakeEach outcome waiting
  | .opened _ => loop

/-- A task is cancelled. One that stands at a gate takes all others there with it. -/
def cancel (who : Nat) (loop : EventLoop) : EventLoop :=
  match loop.tasks[who]? with
  | some { purpose := .load address _, progress := .waiting } => loop.openGate address .cancelled
  | some { purpose := .wait _, progress := .waiting } => loop.wake .cancelled who
  | some { progress := .new, .. } | some { progress := .ending _, .. } =>
    loop.setProgress who (.ending .cancelled)
  | _ => loop

-- ---------------------------------------------------------------------------
-- Running jobs
-- ---------------------------------------------------------------------------

/-- A task ends. What the theme hears of it is queued. -/
def finish (who : Nat) (purpose : Task.Purpose) (outcome : Outcome) (loop : EventLoop) :
    EventLoop :=
  let loop := loop.setProgress who .finished
  match purpose with
  | .load _ dependency => loop.post (.resolve dependency outcome)
  | .wait label =>
    if outcome = .done then { loop with life := loop.life.note label } else loop

def begin (who : Nat) (purpose : Task.Purpose) (loop : EventLoop) : EventLoop :=
  match purpose with
  | .load address _ =>
    let loop := { loop with loaded := loop.loaded ++ [address] }
    match loop.gate address with
    | .opened outcome => loop.finish who purpose outcome
    | .closed waiting =>
      { loop with gates := Entries.set address (.closed (waiting ++ [who])) loop.gates }.setProgress
        who .waiting
  | .wait _ =>
    if loop.life.ready then loop.finish who purpose .done
    else { loop with life := loop.life.wait who }.setProgress who .waiting

def turn (who : Nat) (loop : EventLoop) : EventLoop :=
  match loop.tasks[who]? with
  | some { purpose, progress := .new } => loop.begin who purpose
  | some { purpose, progress := .ending outcome } => loop.finish who purpose outcome
  | _ => loop

/-- A job is run. A dependency that failed is reported, and resolved like any other. -/
def run (loop : EventLoop) : Job → EventLoop
  | .check => loop.onTheme Lifecycle.turn
  | .turn who => loop.turn who
  | .resolve dependency outcome =>
    loop.onTheme fun life =>
      let life := if outcome = .failed then life.event (.dependencyFailed life.theme) else life
      life.resolve dependency

def step (loop : EventLoop) : EventLoop :=
  match loop.queue with
  | [] => loop
  | job :: jobs => { loop with queue := jobs }.run job

def steps : Nat → EventLoop → EventLoop
  | 0, loop => loop
  | n + 1, loop => loop.step.steps n

def work (loop : EventLoop) : Nat := loop.queue.length + Task.totalDue loop.tasks

def settle (loop : EventLoop) : EventLoop := loop.steps loop.work

def waiting (loop : EventLoop) : Nat :=
  loop.tasks.countP fun
    | { purpose := .wait _, progress } => progress ≠ .finished
    | _ => false

end EventLoop

end Retheme
