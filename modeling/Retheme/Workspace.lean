import Retheme.Function.Registry
import Retheme.Variables
import Retheme.Scope
import Retheme.Sheet.Declaration

/-!
# Workspaces

What the evaluation of an expression may change: variables of the processor,
variables shared with others, custom scopes, and the list of reported events.
-/

namespace Retheme

structure Workspace where
  locals : Variables
  globals : Variables
  scopes : CustomScopes
  log : List Event

namespace Workspace

def empty : Workspace := ⟨[], [], [], []⟩

def report {α : Type} (step : Report α) : Step Workspace α :=
  Step.within Workspace.log (fun log workspace => { workspace with log }) step

def event (event : Event) : Step Workspace Unit := report (Report.event event)

/-- One argument reads a variable, empty when it was never set. Two set it; then, and with any
other number of arguments, there is no result. -/
def access (get : Workspace → Variables) (set : Variables → Workspace → Workspace)
    (args : List Value) : Step Workspace Value :=
  match args with
  | [name] => do
    let name ← Step.ofExcept name.shown
    return ((Entries.get? name (← Step.read get)).getD (.text []))
  | [name, value] => do
    let name ← Step.ofExcept name.shown
    Step.update fun workspace => set ((get workspace).assign name value) workspace
    return .null
  | _ => return .null

/-- The mode an optional argument names; nothing is no name. -/
def modeName (arg : Value) : Except Failure (Option Text) :=
  match arg with
  | .null => .ok none
  | value => value.shown.map some

/-- A custom scope for the rule around the marker is registered: the first argument is the selector,
the second the mode. There is no result. -/
def setRuleScope (site : Site) (args : List Value) : Step Workspace Value :=
  match Function.argument args 0 with
  | .null => return .null
  | selector => do
    let rule := Sheet.ruleNameAt site.source (Sheet.offset site.source site.position)
    if rule.isEmpty then return .null
    let name ← Step.ofExcept (modeName (Function.argument args 1))
    let selector ← Step.ofExcept selector.shown
    match ScopeMode.ofName? name with
    | none => event (.unknownScopeMode (name.getD []) selector)
    | some mode =>
      let theme := site.theme.name
      let result := Scope.custom mode rule selector theme
      event (.scopeRegistered theme rule result)
      Step.update fun workspace =>
        { workspace with scopes := workspace.scopes.register theme rule result }
    return .null

end Workspace

def Function.apply (function : Function) (site : Site) (args : List Value) : Step Workspace Value :=
  match function with
  | builtin function => Workspace.report (function.apply args)
  | locals => Workspace.access Workspace.locals (fun locals w => { w with locals }) args
  | globals => Workspace.access Workspace.globals (fun globals w => { w with globals }) args
  | ruleScope => Workspace.setRuleScope site args
  | custom apply => Step.ofExcept (apply site args)

end Retheme
