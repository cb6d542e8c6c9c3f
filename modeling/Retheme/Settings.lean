import Retheme.Event
import Retheme.File.Tree
import Retheme.Json.Reader
import Retheme.Json.Writer

/-!
# Settings

What a user sets once: a namespace, a level, style sheets, an output directory
and a time limit. Settings are read from data of any shape; a field that is not
valid has its default. They are kept in a file as JSON.
-/

namespace Retheme

structure Settings where
  ns : Text
  logLevel : Level
  stylesheets : List Text
  outputDir : Option Text
  fetchTimeout : Float

inductive SettingsFault where
  /-- Whether there is a file cannot be told. -/
  | unreachable (fault : FileFault)
  /-- The bytes are not UTF-8. -/
  | notUtf8
  /-- A number is too large. -/
  | number (failure : Failure)
  deriving DecidableEq, Repr

namespace Settings

-- ---------------------------------------------------------------------------
-- Fields
-- ---------------------------------------------------------------------------

def defaultTimeout : Float := 10.0

def minTimeout : Float := 0.5

def maxTimeout : Float := 120.0

def default : Settings :=
  { ns := "theme", logLevel := .warning, stylesheets := [], outputDir := none
    fetchTimeout := defaultTimeout }

def nonempty? : Value → Option Text
  | .text (c :: rest) => some (c :: rest)
  | _ => none

def level? : Value → Option Level
  | .text name => Level.ofName? name
  | _ => none

def double? : Value → Except Failure (Option Float)
  | .number n => n.toFloat.map some
  | .text s => .ok (Decimal.readFloat? s)
  | _ => .ok none

/-- A time limit within its bounds. A double that is no number lies below and above nothing, and
is kept. -/
def timeout (x : Option Float) : Float :=
  match x with
  | none => defaultTimeout
  | some x => if x < minTimeout || maxTimeout < x then defaultTimeout else x

-- ---------------------------------------------------------------------------
-- Settings and data
-- ---------------------------------------------------------------------------

def ofData (data : Entries Value) : Except Failure Settings := do
  let field (name : String) : Value := (Entries.get? name.toList data).getD .null
  let limit ← double? (field "fetch_timeout")
  return {
    ns := (nonempty? (field "namespace")).getD default.ns
    logLevel := (level? (field "log_level")).getD default.logLevel
    stylesheets := match field "stylesheets" with
      | .list items => items.filterMap nonempty?
      | _ => []
    outputDir := nonempty? (field "output_dir")
    fetchTimeout := timeout limit }

def toData (settings : Settings) : Entries Value :=
  [("namespace".toList, .text settings.ns),
    ("log_level".toList, .text settings.logLevel.name),
    ("stylesheets".toList, .list (settings.stylesheets.map .text)),
    ("output_dir".toList, match settings.outputDir with
      | some directory => .text directory
      | none => .null),
    ("fetch_timeout".toList, .float settings.fetchTimeout)]

/-- Settings from the text of a file. What is not JSON, or not a map, gives the defaults. -/
def ofText (text : Text) : Except SettingsFault Settings :=
  match Json.read text with
  | .error .malformed => .ok default
  | .error .tooManyDigits => .error (.number .tooManyDigits)
  | .ok (.map data) =>
    match ofData data with
    | .ok settings => .ok settings
    | .error failure => .error (.number failure)
  | .ok _ => .ok default

def toText (settings : Settings) : Text := Json.write (.lines 2 0) (.map settings.toData)

-- ---------------------------------------------------------------------------
-- Where settings are kept
-- ---------------------------------------------------------------------------

def folder : Text := "style-shifter"

/-- The directory in which settings are kept; none when a home directory is unknown. -/
def directory? (environment : Environment) : Option FilePath :=
  match environment.configDirectory, environment.configHome with
  | some (c :: rest), _ => (FilePath.ofText (c :: rest)).expandHome? environment
  | _, some (c :: rest) =>
    ((FilePath.ofText (c :: rest)).expandHome? environment).map (·.child folder)
  | _, _ =>
    ((FilePath.ofText "~").expandHome? environment).map fun home =>
      (home.child ".config").child folder

def path? (environment : Environment) : Option FilePath :=
  (directory? environment).map (·.child "settings.json")

/-- The settings in a file; the defaults when it is missing or cannot be read. Where it is looked for
has to be within reach. -/
def load (tree : FileTree) (path : FilePath) : Except SettingsFault Settings :=
  match tree.isPresent path with
  | .error fault => .error (.unreachable fault)
  | .ok false => .ok default
  | .ok true =>
    match tree.readText path with
    | .ok text => ofText text
    | .error (.file _) => .ok default
    | .error .notUtf8 => .error .notUtf8

/-- The files after settings were saved; those that were there stay when that is not possible. -/
def save (tree : FileTree) (path : FilePath) (settings : Settings) : FileTree :=
  (tree.write path settings.toText.utf8).1

end Settings

end Retheme
