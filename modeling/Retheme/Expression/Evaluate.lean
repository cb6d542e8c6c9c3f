import Retheme.Expression.Basic
import Retheme.Workspace

/-!
# Evaluation

An expression is evaluated for a theme at a marker. Arguments are resolved from
left to right, inner calls first. A failure in an argument or a function is
reported and gives no result; the effects before it stay.
-/

namespace Retheme

namespace Expression

mutual
/-- The value of an argument. A call of an unknown function is its own text, and its arguments are
not looked at; so is a variable that was never set, except the one that stands for the declared
value, and a path that leads to nothing. -/
def resolve (functions : Registry) (site : Site) : Node → Step Workspace Value
  | .literal text => pure (.text text)
  | .variable name text => do
    let found ← Step.read fun workspace =>
      Variables.lookup? name workspace.locals workspace.globals
    match found with
    | some value => pure value
    | none =>
      if name = Variables.reserved then
        match Sheet.declaredValue? site.source (Sheet.offset site.source site.position) with
        | some value => pure (.text value)
        | none => pure .null
      else pure (.text text)
  | .path segments text =>
    match site.theme.resolve? segments with
    | none => pure (.text text)
    | some .null => pure (.text text)
    | some value => pure value
  | .call name args text =>
    match Entries.get? name functions with
    | none => pure (.text text)
    | some function => do
      let args ← resolveAll functions site args
      function.apply { site with expression := text } args

def resolveAll (functions : Registry) (site : Site) : List Node → Step Workspace (List Value)
  | [] => pure []
  | node :: nodes => do
    let value ← resolve functions site node
    let values ← resolveAll functions site nodes
    return value :: values
end

/-- The result of a call whose function is known; a failure is reported and gives nothing. -/
def evaluateCall (functions : Registry) (function : Function) (site : Site) (name : Text)
    (args : List Node) (text : Text) : Step Workspace Value :=
  Step.orElse
    (do
      let args ← resolveAll functions site args
      function.apply { site with expression := text } args)
    (do
      Workspace.event (.functionFailed name)
      return .null)

def evaluate (functions : Registry) (site : Site) : Step Workspace (Option Text) :=
  match parse site.expression with
  | .error malformed => do
    Workspace.event (.malformedExpression malformed.message)
    return none
  | .ok (.path segments _) =>
    match site.theme.resolve? segments with
    | none => return none
    | some value => Step.ofExcept value.declared?
  | .ok (.call name args text) =>
    match Entries.get? name functions with
    | none => do
      Workspace.event (.unknownFunction name site.expression)
      return none
    | some function => do
      let result ← evaluateCall functions function site name args text
      Step.ofExcept result.declared?

end Expression

end Retheme
