import Retheme.Number.Integer
import Retheme.Text.Quoted

/-!
# Events

What is worth reporting while themes are loaded, evaluated and published. Each
event has a level and a message of its own.
-/

namespace Retheme

inductive Level where
  | debug
  | info
  | warning
  | error
  | critical
  deriving DecidableEq, Repr

namespace Level

def all : List Level := [debug, info, warning, error, critical]

def name : Level → Text
  | debug => "DEBUG"
  | info => "INFO"
  | warning => "WARNING"
  | error => "ERROR"
  | critical => "CRITICAL"

def rank : Level → Nat
  | debug => 0
  | info => 1
  | warning => 2
  | error => 3
  | critical => 4

def ofName? (name : Text) : Option Level := all.find? (·.name = name)

end Level

inductive Event where
  | malformedExpression (reason : Text)
  | unknownFunction (name expression : Text)
  | functionFailed (name : Text)
  | functionReplaced (name : Text)
  | notAColor (text : Text)
  | recolorNeedsArguments
  | recolorCounts (sought replacements : Nat)
  | unknownScopeMode (mode selector : Text)
  | scopeRegistered (theme rule result : Text)
  | alreadyScanned (theme ns : Text)
  | scanned (theme ns : Text) (overrides : Nat)
  | detachedMarker (expression : Text) (position : Nat)
  | fetching (href : Text)
  | sheetSkipped (href : Text)
  | sheetFailed (href : Text)
  | hookFailed (rule prop : Text)
  | cascadeRegistered (count : Nat) (ns : Text)
  | themeReady (theme : Text)
  | callbackFailed (theme : Text)
  | dependencyFailed (theme : Text)
  | themeRejected (message : Text)
  | published (block path : Text)
  | notPublished (block path : Text)
  deriving DecidableEq, Repr

namespace Event

def level : Event → Level
  | malformedExpression _ | unknownScopeMode .. | sheetSkipped _ | dependencyFailed _
  | notPublished .. => .warning
  | functionFailed _ | recolorNeedsArguments | recolorCounts .. | sheetFailed _ | hookFailed ..
  | callbackFailed _ | themeRejected _ => .error
  | scanned .. | published .. => .info
  | unknownFunction .. | functionReplaced _ | notAColor _ | scopeRegistered .. | alreadyScanned ..
  | detachedMarker .. | fetching _ | cascadeRegistered .. | themeReady _ => .debug

def count (n : Nat) : Text := Integer.digits n

def message : Event → Text
  | malformedExpression reason => "Skipping malformed expression: " ++ reason
  | unknownFunction name expression =>
    "Unknown function " ++ name.quoted ++ " in " ++ expression.quoted
  | functionFailed name => "Error evaluating function " ++ name
  | functionReplaced name => "Replacing marker function " ++ name.quoted
  | notAColor text => "Not a color: " ++ text.quoted
  | recolorNeedsArguments =>
    "mapSvgColors requires svg content, original colors and at least one replacement color"
  | recolorCounts sought replacements =>
    "Number of original colors (" ++ count sought ++ ") must match replacement colors (" ++
      count replacements ++ ")"
  | unknownScopeMode mode selector =>
    "Unknown rule scope mode " ++ mode.quoted ++ " for " ++ selector.quoted
  | scopeRegistered theme rule result =>
    "Custom scope for " ++ theme ++ ": " ++ rule.quoted ++ " -> " ++ result.quoted
  | alreadyScanned theme ns => "Theme " ++ theme ++ " already scanned for namespace " ++ ns
  | scanned theme ns overrides =>
    "Scanned theme " ++ theme ++ " for namespace " ++ ns ++ ": " ++ count overrides ++ " overrides"
  | detachedMarker expression position =>
    "Marker " ++ expression.quoted ++ " at " ++ count position ++
      " is not attached to a declaration"
  | fetching href => "Fetching style sheet " ++ href
  | sheetSkipped href => "Skipping style sheet: Failed to fetch " ++ href
  | sheetFailed href => "Unexpected error fetching style sheet " ++ href
  | hookFailed rule prop => "Override hook failed for " ++ rule ++ " " ++ prop
  | cascadeRegistered n ns => "Registered cascade #" ++ count n ++ " for namespace " ++ ns.quoted
  | themeReady theme => "Theme " ++ theme ++ " is ready"
  | callbackFailed theme => "Completion callback for theme " ++ theme ++ " failed"
  | dependencyFailed theme => "Dependency of theme " ++ theme ++ " failed"
  | themeRejected message => message
  | published block path => "Published " ++ block ++ " to " ++ path
  | notPublished block path => "Failed to publish " ++ block ++ " to " ++ path

end Event

end Retheme
