import Retheme.CommandLine.Arguments
import Retheme.File.Publisher
import Retheme.File.Source
import Retheme.Settings
import Retheme.Theme.File

/-!
# The build command

A theme is loaded, the style sheets are scanned for it, and the style block is
printed or written into a directory. Everything happens on values: the files
before and after, the text printed, and the events reported on the way.
-/

namespace Retheme.CommandLine

-- ---------------------------------------------------------------------------
-- Outcomes
-- ---------------------------------------------------------------------------

inductive Break where
  /-- The bytes of a file are not UTF-8. -/
  | notUtf8
  /-- A path cannot be one. -/
  | invalidPath
  /-- A home directory is unknown. -/
  | unknownHome
  /-- Whether there are settings cannot be told. -/
  | unreachable (fault : FileFault)
  | value (failure : Failure)
  deriving DecidableEq, Repr

structure Outcome where
  code : Nat
  /-- The text printed; none when the arguments are refused. -/
  printed : Option Text
  tree : FileTree
  /-- The events of the level asked for and graver ones. -/
  events : List Event
  broken : Option Break

def atLeast (level : Level) (events : List Event) : List Event :=
  events.filter fun event => level.rank ≤ event.level.rank

def broken (tree : FileTree) (level : Level) (events : List Event) (reason : Break) : Outcome :=
  { code := 1, printed := some [], tree, events := atLeast level events, broken := some reason }

-- ---------------------------------------------------------------------------
-- The parts of a run
-- ---------------------------------------------------------------------------

def settings (world : World) : Except Break Settings :=
  match Settings.path? world.environment with
  | none => .error .unknownHome
  | some path =>
    match Settings.load world.tree path with
    | .ok settings => .ok settings
    | .error (.unreachable fault) => .error (.unreachable fault)
    | .error .notUtf8 => .error .notUtf8
    | .error (.number failure) => .error (.value failure)

def block (world : World) (theme : Theme) (hrefs : List Text) :
    Except Failure (Option Text) × List Event :=
  let (result, processor) :=
    Step.run (Processor.addTheme (hrefs.map world.sheet) theme) (Processor.initial theme.ns [])
  (result, processor.work.log)

/-- The output directory: the one of the command line, or the one of the settings. -/
def outputDirectory (options : BuildOptions) (settings : Settings) : Option FilePath :=
  (options.outputDir.or settings.outputDir).map FilePath.ofText

def deliver (world : World) (level : Level) (events : List Event) (theme : Theme)
    (directory : Option FilePath) (block : Option Text) : Outcome :=
  let done (printed : Text) (tree : FileTree) (events : List Event) : Outcome :=
    { code := 0, printed := some printed, tree, events := atLeast level events, broken := none }
  match directory, block with
  | none, block => done (block.getD []) world.tree events
  | some _, none => done [] world.tree events
  | some directory, some css =>
    match Publisher.publish world.tree directory (Processor.blockId theme.ns) css with
    | (tree, .ok event) => done [] tree (events ++ [event])
    | (tree, .error _) => broken tree level events .invalidPath

def sheetsOf (options : BuildOptions) (settings : Settings) : List Text :=
  if options.stylesheets.isEmpty then settings.stylesheets else options.stylesheets

-- ---------------------------------------------------------------------------
-- The command
-- ---------------------------------------------------------------------------

def buildWith (world : World) (options : BuildOptions) (settings : Settings) : Outcome :=
  let level := options.logLevel.getD settings.logLevel
  let path := FilePath.ofText options.theme
  let ns := match options.ns with
    | some (c :: rest) => c :: rest
    | _ => settings.ns
  let loaded := ThemeFile.load world.tree path ns []
  match loaded.theme with
  | .error (.refused fault) =>
    let events := loaded.events ++ [.themeRejected (fault.message path.text)]
    { code := 1, printed := some [], tree := world.tree, events := atLeast level events
      broken := none }
  | .error .notUtf8 => broken world.tree level loaded.events .notUtf8
  | .error .invalidPath => broken world.tree level loaded.events .invalidPath
  | .error (.value failure) => broken world.tree level loaded.events (.value failure)
  | .ok theme =>
    match block world theme (sheetsOf options settings) with
    | (.error failure, events) => broken world.tree level (loaded.events ++ events) (.value failure)
    | (.ok css, events) =>
      deliver world level (loaded.events ++ events) theme (outputDirectory options settings) css

def build (world : World) (options : BuildOptions) : Outcome :=
  match settings world with
  | .error reason => broken world.tree .critical [] reason
  | .ok settings => buildWith world options settings

/-- The paths that a command line looks at, besides that of the settings: the theme file, the style
sheets that are files, and the output directory. -/
def paths (world : World) (arguments : List Text) : List FilePath :=
  match read false arguments, settings world with
  | .build options, .ok settings =>
    FilePath.ofText options.theme ::
      (sheetsOf options settings).filterMap (fun href => (world.path href).toOption) ++
      (outputDirectory options settings).toList
  | _, _ => []

def usage : Text :=
  "usage: style-shifter build [-h] [--namespace NAMESPACE] [--output-dir OUTPUT_DIR] " ++
    "[--log-level LOG_LEVEL] theme [stylesheets ...]"

def run (world : World) (arguments : List Text) : Outcome :=
  match read false arguments with
  | .build options => build world options
  | .help => { code := 0, printed := some [], tree := world.tree, events := [], broken := none }
  | .usage => { code := 2, printed := none, tree := world.tree, events := [], broken := none }

end Retheme.CommandLine
