import Retheme.Cascade
import Retheme.Event
import Retheme.File.Tree
import Retheme.Json.Reader
import Retheme.Theme.Basic
import Retheme.Theme.Lifecycle

/-!
# Theme files

A theme file holds a JSON map with a name, data, and optionally a namespace,
fonts and fallback data. Its fallbacks are registered, and the data is filled
from all fallbacks of the namespace. Every fault names the file.
-/

namespace Retheme

-- ---------------------------------------------------------------------------
-- Faults
-- ---------------------------------------------------------------------------

inductive ThemeFault where
  /-- The file cannot be read. -/
  | unreadable (fault : FileFault)
  /-- The text is not JSON. -/
  | notJson
  /-- The text is JSON, but not a map. -/
  | notAMap
  /-- The data is not a map. -/
  | dataNotAMap
  /-- There is no name. -/
  | nameless
  deriving DecidableEq, Repr

def ThemeFault.message (path : Text) : ThemeFault → Text
  | unreadable _ | notJson => "Cannot read theme file " ++ path
  | notAMap => "Theme file " ++ path ++ " must contain a JSON object"
  | dataNotAMap => "Theme file " ++ path ++ ": 'data' must be an object"
  | nameless => "Theme file " ++ path ++ " does not define a theme name"

/-- Why no theme can be had from a file: it is refused, or something else goes wrong. -/
inductive ThemeFileFault where
  | refused (fault : ThemeFault)
  /-- The bytes are not UTF-8. -/
  | notUtf8
  /-- The path cannot be one. -/
  | invalidPath
  /-- A value has no items, or an integer is too long. -/
  | value (failure : Failure)
  deriving DecidableEq, Repr

-- ---------------------------------------------------------------------------
-- Content
-- ---------------------------------------------------------------------------

structure ThemeFile where
  ns : Option Text
  name : Value
  data : Entries Value
  fallbacks : List (Entries Value)
  fonts : Option (Entries Value)

namespace ThemeFile

/-- The maps among the items of a value. Truth values and numbers have no items, unless they count
as nothing; texts and maps have items, but no maps among them. -/
def fallbacksOf (value : Value) : Except Failure (List (Entries Value)) :=
  if !value.truthy then .ok []
  else match value with
    | .list items => .ok (items.filterMap fun
      | .map fields => some fields
      | _ => none)
    | .bool _ => .error .wrongKind
    | .number _ => .error .wrongKind
    | _ => .ok []

def ofFields (fields : Entries Value) : Except ThemeFileFault ThemeFile := do
  let field (name : String) : Value := (Entries.get? name.toList fields).getD .null
  let .map data := (Entries.get? "data".toList fields).getD (.map [])
    | throw (.refused .dataNotAMap)
  let fallbacks ← match fallbacksOf (field "cascade") with
    | .ok fallbacks => pure fallbacks
    | .error failure => throw (.value failure)
  return {
    ns := match field "namespace" with
      | .text ns => some ns
      | _ => none
    name := field "name"
    data, fallbacks
    fonts := match field "fonts" with
      | .map fonts => some fonts
      | _ => none }

def ofText (text : Text) : Except ThemeFileFault ThemeFile :=
  match Json.read text with
  | .ok (.map fields) => ofFields fields
  | .ok _ => .error (.refused .notAMap)
  | .error .malformed => .error (.refused .notJson)
  | .error .tooManyDigits => .error (.value .tooManyDigits)

def read (tree : FileTree) (path : FilePath) : Except ThemeFileFault ThemeFile :=
  match tree.readText path with
  | .ok text => ofText text
  | .error (.file .invalidPath) => .error .invalidPath
  | .error (.file fault) => .error (.refused (.unreadable fault))
  | .error .notUtf8 => .error .notUtf8

-- ---------------------------------------------------------------------------
-- Loading
-- ---------------------------------------------------------------------------

def register (ns : Text) (fallbacks : List (Entries Value)) (cascades : Cascades) :
    Cascades × List Event :=
  fallbacks.foldl (fun (cascades, events) fallback =>
    let cascades := cascades.register ns fallback none
    let count := ((Entries.get? ns cascades).getD []).length
    (cascades, events ++ [.cascadeRegistered count ns])) (cascades, [])

/-- The name of a theme: that of the file, unless it counts as nothing, or that in the data. -/
def nameOf (name : Value) (data : Entries Value) : Option Text :=
  match if name.truthy then name else (Entries.get? Cascades.nameField data).getD .null with
  | .text (c :: rest) => some (c :: rest)
  | _ => none

/-- A theme from a file: the theme or the fault, the fallbacks after loading, and what is
reported. -/
structure Loaded where
  theme : Except ThemeFileFault Theme
  cascades : Cascades
  events : List Event

/-- The theme of a file at a path, with a namespace to take where the file sets none. -/
def load (tree : FileTree) (path : FilePath) (ns : Text) (cascades : Cascades) : Loaded :=
  match read tree path with
  | .error fault => { theme := .error fault, cascades, events := [] }
  | .ok file =>
    let ns := file.ns.getD ns
    let (cascades, events) := register ns file.fallbacks cascades
    let data := cascades.apply ns file.data
    match nameOf file.name data with
    | none => { theme := .error (.refused .nameless), cascades, events }
    | some name =>
      { theme := .ok (Theme.make ns name data file.fonts), cascades
        events := events ++ (Lifecycle.initial name).turn.events }

end ThemeFile

end Retheme
