import Retheme.Entries
import Retheme.Text.Nesting
import Retheme.Text.Blank

/-!
# Scoped rule names

An override applies only under the class of its theme. By default the class
stands in front of every selector of the rule; a custom scope, kept per theme
and rule, replaces the rule name by another.
-/

namespace Retheme

inductive ScopeMode where
  /-- The class is appended to the selector. -/
  | joined
  /-- The class stands in front of the selector. -/
  | before
  /-- The class is nested under the selector. -/
  | after
  deriving DecidableEq, Repr

/-- The mode of a name; no name stands for the joined mode. -/
def ScopeMode.ofName? : Option Text → Option ScopeMode
  | none => some joined
  | some name =>
    if name = "before".toList then some before
    else if name = "after".toList then some after
    else none

namespace Scope

def className (theme : Text) : Text := '.' :: theme

def prefixed (selectors theme : Text) : Text :=
  Text.join ", " (((Text.squeezeBlanks selectors).splitTop ',').map fun selector =>
    className theme ++ [' '] ++ Text.strip selector)

/-- A rule name scoped by the class of a theme. The prelude of an at-rule stays in front of the
selectors; an at-rule without selectors stays as it is. -/
def standard (rule theme : Text) : Text :=
  if ['@'].isPrefixOf rule then
    match Text.cut? ['{'] rule with
    | none => rule
    | some (prelude, selectors) => Text.strip prelude ++ " \x7b " ++ prefixed selectors theme
  else prefixed rule theme

def combined (mode : ScopeMode) (selector theme : Text) : Text :=
  match mode with
  | .joined => selector ++ className theme
  | .before => className theme ++ [' '] ++ selector
  | .after => selector ++ [' '] ++ className theme

/-- A rule name in which the first occurrence of a selector is combined with the class of a
theme. -/
def custom (mode : ScopeMode) (rule selector theme : Text) : Text :=
  Text.replaceFirst selector (combined mode selector theme) rule

end Scope

abbrev CustomScopes := Entries (Entries Text)

namespace CustomScopes

def ofTheme (theme : Text) (scopes : CustomScopes) : Entries Text :=
  (Entries.get? theme scopes).getD []

def register (theme rule result : Text) (scopes : CustomScopes) : CustomScopes :=
  Entries.set theme (Entries.set rule result (ofTheme theme scopes)) scopes

/-- The scoped name of a rule: its replacement, or the standard one. -/
def scope (scopes : CustomScopes) (rule theme : Text) : Text :=
  (Entries.get? rule (ofTheme theme scopes)).getD (Scope.standard rule theme)

end CustomScopes

end Retheme
