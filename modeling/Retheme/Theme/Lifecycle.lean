import Retheme.Step

/-!
# When a theme is ready

A theme is ready once nothing that it depends on is still loading. A theme
without dependencies is ready at the ready check, which is held back at first,
so that dependencies added meanwhile count. What becomes ready stays so.

Callbacks are queued until the theme is ready and then run in order; later ones
run at once. Whoever waits is woken after the callbacks.
-/

namespace Retheme

-- ---------------------------------------------------------------------------
-- Callbacks and dependencies
-- ---------------------------------------------------------------------------

inductive Action where
  /-- Nothing more. -/
  | done
  /-- It gives up. -/
  | fail
  /-- A callback with a label and actions of its own is registered. -/
  | register (label : Text) (inner next : Action)
  /-- A dependency is added. -/
  | depend (label : Text) (next : Action)
  deriving DecidableEq, Repr

structure Callback where
  label : Text
  action : Action
  deriving DecidableEq, Repr

structure Dependency where
  label : Text
  resolved : Bool
  deriving DecidableEq, Repr

-- ---------------------------------------------------------------------------
-- The state
-- ---------------------------------------------------------------------------

structure Lifecycle where
  theme : Text
  /-- Whether the ready check is still held back. -/
  checkHeld : Bool
  /-- All dependencies so far; the place of one is its number. -/
  dependencies : List Dependency
  /-- The count of dependencies still loading. -/
  pending : Int
  ready : Bool
  /-- The callbacks to run, the first first. -/
  callbacks : List Callback
  /-- Who waits, the first first. -/
  waiters : List Nat
  /-- The labels noted so far. -/
  calls : List Text
  /-- Who was woken so far. -/
  woken : List Nat
  events : List Event

namespace Lifecycle

def initial (theme : Text) : Lifecycle :=
  { theme, checkHeld := true, dependencies := [], pending := 0, ready := false, callbacks := []
    waiters := [], calls := [], woken := [], events := [] }

def unresolved (life : Lifecycle) : Nat := life.dependencies.countP (!·.resolved)

def latest? (label : Text) (life : Lifecycle) : Option Nat :=
  (life.dependencies.zipIdx.reverse.find? (·.1.label = label)).map Prod.snd

def note (label : Text) (life : Lifecycle) : Lifecycle :=
  { life with calls := life.calls ++ [label] }

def event (event : Event) (life : Lifecycle) : Lifecycle :=
  { life with events := life.events ++ [event] }

def enqueue (callback : Callback) (life : Lifecycle) : Lifecycle :=
  { life with callbacks := life.callbacks ++ [callback] }

/-- A dependency is added. Its number is the count of those before it. -/
def depend (label : Text) (life : Lifecycle) : Lifecycle :=
  { life with
    dependencies := life.dependencies ++ [⟨label, false⟩]
    pending := life.pending + 1 }

end Lifecycle

-- ---------------------------------------------------------------------------
-- Running callbacks
-- ---------------------------------------------------------------------------

def Action.run : Action → Step Lifecycle Unit
  | done => return ()
  | fail => throw .gaveUp
  | register label inner next => do
    if ← Step.read Lifecycle.ready then
      Step.update (Lifecycle.note label)
      inner.run
    else
      Step.update (Lifecycle.enqueue ⟨label, inner⟩)
    next.run
  | depend label next => do
    Step.update (Lifecycle.depend label)
    next.run

def Callback.run (callback : Callback) : Step Lifecycle Unit := do
  Step.update (Lifecycle.note callback.label)
  callback.action.run

namespace Lifecycle

def onComplete (callback : Callback) : Step Lifecycle Unit := do
  if ← Step.read Lifecycle.ready then callback.run else Step.update (enqueue callback)

/-- Callbacks are run in order. One that gives up is reported, and the others still run. -/
def runAll : List Callback → Lifecycle → Lifecycle
  | [], life => life
  | callback :: callbacks, life =>
    match Step.run callback.run life with
    | (.ok _, life) => runAll callbacks life
    | (.error _, life) => runAll callbacks (life.event (.callbackFailed life.theme))

-- ---------------------------------------------------------------------------
-- Becoming ready
-- ---------------------------------------------------------------------------

def wakeAll (life : Lifecycle) : Lifecycle :=
  { life with woken := life.woken ++ life.waiters, waiters := [] }

/-- The theme becomes ready: its callbacks run, and then all who wait are woken. -/
def complete (life : Lifecycle) : Lifecycle :=
  if life.ready then life
  else
    let opened := { life with ready := true, callbacks := [] }
    (runAll life.callbacks (opened.event (.themeReady life.theme))).wakeAll

/-- The theme becomes ready if nothing is loading. -/
def check (life : Lifecycle) : Lifecycle := if life.pending = 0 then life.complete else life

def turn (life : Lifecycle) : Lifecycle :=
  if life.checkHeld then check { life with checkHeld := false } else life

/-- A dependency of a number is resolved. Resolving it again does nothing. -/
def resolve (number : Nat) (life : Lifecycle) : Lifecycle :=
  match life.dependencies[number]? with
  | some ⟨label, false⟩ =>
    check { life with
      dependencies := life.dependencies.set number ⟨label, true⟩
      pending := life.pending - 1 }
  | _ => life

/-- Someone waits, unless the theme is ready. -/
def wait (who : Nat) (life : Lifecycle) : Lifecycle :=
  if life.ready then life else { life with waiters := life.waiters ++ [who] }

/-- Images are loaded on an event loop. A theme that has none can preload no list, not even an
empty one. -/
def preload (_ : List Text) : Step Lifecycle Unit := throw .noEventLoop

-- ---------------------------------------------------------------------------
-- Signals
-- ---------------------------------------------------------------------------

inductive Signal where
  | turn
  | depend (label : Text)
  | resolve (number : Nat)
  | onComplete (callback : Callback)
  | wait (who : Nat)
  deriving DecidableEq, Repr

def Signal.step : Signal → Step Lifecycle Unit
  | turn => Step.update Lifecycle.turn
  | depend label => Step.update (Lifecycle.depend label)
  | resolve number => Step.update (Lifecycle.resolve number)
  | onComplete callback => Lifecycle.onComplete callback
  | wait who => Step.update (Lifecycle.wait who)

end Lifecycle

end Retheme
