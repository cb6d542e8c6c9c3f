import Retheme.Expression.Evaluate
import Retheme.Override.Basic
import Retheme.Sheet.Marker

/-!
# Processors

A processor answers one namespace. It scans style sheets for markers, records
an override for each that gives a text and stands in front of a declaration,
and renders all overrides recorded so far. Overrides accumulate over themes; a
theme that was scanned is not scanned again.
-/

namespace Retheme

-- ---------------------------------------------------------------------------
-- Style sheets and hooks
-- ---------------------------------------------------------------------------

inductive SheetFault where
  /-- It cannot be fetched. -/
  | unavailable
  /-- Something else went wrong. -/
  | broken
  deriving DecidableEq, Repr

/-- A style sheet: its address, what is reported while it is fetched, and its text. -/
structure Sheet where
  href : Text
  reports : List Event
  content : Except SheetFault Text

abbrev Hook := Theme → Override → Override × Except Failure (Option Text)

structure Processor where
  ns : Text
  functions : Registry
  hooks : List Hook
  work : Workspace
  overrides : OverrideStore
  scanned : List Text

namespace Processor

def initial (ns : Text) (hooks : List Hook) : Processor :=
  { ns, functions := Registry.initial, hooks, work := .empty, overrides := [], scanned := [] }

def blockStem : Text := "style-shifter-"

def blockId (ns : Text) : Text := blockStem ++ ns

def onWork {α : Type} (step : Step Workspace α) : Step Processor α :=
  Step.within Processor.work (fun work processor => { processor with work }) step

def event (event : Event) : Step Processor Unit := onWork (Workspace.event event)

/-- A function is registered; one of the same name is replaced. -/
def register (name : Text) (function : Function) : Step Processor Unit := do
  if Entries.has name (← Step.read Processor.functions) then event (.functionReplaced name)
  Step.update fun processor =>
    { processor with functions := Entries.set name function processor.functions }

def hasScanned (processor : Processor) (theme : Text) : Bool := processor.scanned.contains theme

-- ---------------------------------------------------------------------------
-- Markers
-- ---------------------------------------------------------------------------

/-- The text an expression gives for a theme at a position of a style sheet. -/
def evaluate (expression : Text) (theme : Theme) (source : Text) (position : Int) :
    Step Processor (Option Text) := do
  let functions ← Step.read Processor.functions
  onWork (Expression.evaluate functions ⟨expression, theme, source, position⟩)

/-- The hooks run in order on a new override. One that fails is reported and passed over. -/
def runHooks (theme : Theme) (override : Override) : List Hook → Step Processor Override
  | [] => return override
  | hook :: hooks => do
    let (changed, result) := hook theme override
    match result with
    | .ok (some value) => runHooks theme { changed with value } hooks
    | .ok none => runHooks theme changed hooks
    | .error _ =>
      event (.hookFailed changed.rule changed.prop)
      runHooks theme changed hooks

def scanMarker (source : Text) (theme : Theme) (marker : Sheet.Marker) : Step Processor Bool := do
  match ← evaluate marker.expression theme source marker.start with
  | none => return false
  | some value =>
    let context := Sheet.contextAt source marker.start
    if !context.isValid then
      event (.detachedMarker marker.expression marker.start)
      return false
    let rule ← Step.read fun processor => processor.work.scopes.scope context.rule theme.name
    let hooks ← Step.read Processor.hooks
    let override ← runHooks theme
      { rule, prop := context.prop, value, key := marker.key, important := context.important } hooks
    Step.update fun processor => { processor with overrides := processor.overrides.record override }
    return true

def scanMarkers (source : Text) (theme : Theme) : List Sheet.Marker → Step Processor Nat
  | [] => return 0
  | marker :: rest => do
    let recorded ← scanMarker source theme marker
    let more ← scanMarkers source theme rest
    return (if recorded then 1 else 0) + more

/-- A style sheet is scanned for a theme: how many overrides were recorded. -/
def scan (source : Text) (theme : Theme) : Step Processor Nat :=
  scanMarkers source theme (Sheet.markers source)

-- ---------------------------------------------------------------------------
-- Style sheets
-- ---------------------------------------------------------------------------

/-- The text of a style sheet; one that cannot be had is reported, and is empty. -/
def fetch (sheet : Sheet) : Step Processor Text := do
  sheet.reports.forM event
  match sheet.content with
  | .ok text => return text
  | .error .unavailable =>
    event (.sheetSkipped sheet.href)
    return []
  | .error .broken =>
    event (.sheetFailed sheet.href)
    return []

/-- Style sheets are scanned in order: how many overrides were recorded. -/
def scanSheets (theme : Theme) : List Sheet → Step Processor Nat
  | [] => return 0
  | sheet :: sheets => do
    let text ← fetch sheet
    let recorded ← if text.isEmpty then pure 0 else scan text theme
    let more ← scanSheets theme sheets
    return recorded + more

-- ---------------------------------------------------------------------------
-- The style block
-- ---------------------------------------------------------------------------

def fontTexts : Entries Value → Except Failure (Entries Text)
  | [] => .ok []
  | (family, source) :: rest => do
    let text ← source.shown
    return (family, text) :: (← fontTexts rest)

def synthesize (processor : Processor) (theme : Option Theme) : Except Failure Text := do
  let fonts ← fontTexts ((theme.bind Theme.fonts).getD [])
  return processor.overrides.render fonts

/-- A theme is added: the style sheets are scanned unless the theme was scanned before, and the
style block is given for publishing, if there is any override. -/
def addTheme (sheets : List Sheet) (theme : Theme) : Step Processor (Option Text) := do
  let ns ← Step.read Processor.ns
  if (← Step.read id).hasScanned theme.name then
    event (.alreadyScanned theme.name ns)
  else
    let recorded ← scanSheets theme sheets
    Step.update fun processor => { processor with scanned := processor.scanned ++ [theme.name] }
    event (.scanned theme.name ns recorded)
  let processor ← Step.read id
  if processor.overrides.isEmpty then return none
  return some (← Step.ofExcept (processor.synthesize (some theme)))

end Processor

end Retheme
