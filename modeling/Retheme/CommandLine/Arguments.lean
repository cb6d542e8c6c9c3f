import Retheme.Event
import Retheme.Text.Digit

/-!
# Arguments of the command line

Options begin with a hyphen, may be shortened as long as they stay unique, and
take the argument behind them or behind an equals sign. All arguments behind
two hyphens are positional. The first run of positional arguments names the
theme file and the style sheets; a later run is not accepted.
-/

namespace Retheme.CommandLine

-- ---------------------------------------------------------------------------
-- Options
-- ---------------------------------------------------------------------------

inductive Switch where
  | help
  | ns
  | outputDir
  | logLevel
  deriving DecidableEq, Repr

def buildSwitches : List (Text × Switch) :=
  [("--help".toList, .help), ("--namespace".toList, .ns), ("--output-dir".toList, .outputDir),
    ("--log-level".toList, .logLevel)]

inductive Token where
  | plain (argument : Text)
  /-- Two hyphens, behind which all arguments are plain. -/
  | separator
  /-- An option, with the value behind an equals sign, if there is one; help takes none. -/
  | switch (switch : Switch) (value : Option Text)
  /-- Something that looks like an option, and is none. -/
  | unknown
  /-- An option shortened too much. -/
  | ambiguous
  deriving DecidableEq, Repr

-- ---------------------------------------------------------------------------
-- What an argument is
-- ---------------------------------------------------------------------------

/-- Whether an argument reads as a negative number. A line feed may follow. -/
def isNegativeNumber : Text → Bool
  | '-' :: rest =>
    let body := if ['\n'].isSuffixOf rest then rest.dropLast else rest
    match Text.cut? ['.'] body with
    | none => !body.isEmpty && body.all Text.isDigit
    | some (whole, fraction) =>
      whole.all Text.isDigit && !fraction.isEmpty && fraction.all Text.isDigit
  | _ => false

def cutValue (argument : Text) : Text × Option Text :=
  match Text.cut? ['='] argument with
  | some (name, value) => (name, some value)
  | none => (argument, none)

/-- What an argument with a hyphen in front is, when it is no option by its whole name. -/
def shortened (switches : List (Text × Switch)) (argument : Text) : Token :=
  let fallback : Token :=
    if isNegativeNumber argument || argument.contains ' ' then .plain argument else .unknown
  if ['-', '-'].isPrefixOf argument then
    let (name, value) := cutValue argument
    match switches.filter fun (full, _) => name.isPrefixOf full with
    | [] => fallback
    | [(_, switch)] => .switch switch value
    | _ => .ambiguous
  else match argument with
    | '-' :: 'h' :: rest =>
      -- The short option may be repeated; anything else behind it is a value.
      let rest := rest.dropWhile (· = 'h')
      .switch .help (if rest.isEmpty then none else some rest)
    | _ => fallback

def classify (switches : List (Text × Switch)) (argument : Text) : Token :=
  let find (name : Text) : Option Switch :=
    ((("-h".toList, Switch.help) :: switches).find? (·.1 = name)).map Prod.snd
  match argument with
  | [] => .plain argument
  | ['-'] => .plain argument
  | c :: _ =>
    if c ≠ '-' then .plain argument
    else match find argument, cutValue argument with
      | some switch, _ => .switch switch none
      | none, (name, some value) =>
        match find name with
        | some switch => .switch switch (some value)
        | none => shortened switches argument
      | none, (_, none) => shortened switches argument

def tokens (switches : List (Text × Switch)) : List Text → List Token
  | [] => []
  | argument :: rest =>
    if argument = ['-', '-'] then .separator :: rest.map .plain
    else classify switches argument :: tokens switches rest

-- ---------------------------------------------------------------------------
-- Requests
-- ---------------------------------------------------------------------------

structure BuildOptions where
  theme : Text
  stylesheets : List Text
  ns : Option Text
  outputDir : Option Text
  logLevel : Option Level
  deriving DecidableEq, Repr

inductive Request where
  | build (options : BuildOptions)
  | help
  /-- The arguments are not those of a command. -/
  | usage
  deriving DecidableEq, Repr

structure Progress where
  positionals : Option (Text × List Text)
  ns : Option Text
  outputDir : Option Text
  logLevel : Option Level
  /-- Whether an argument was not accepted. -/
  rejected : Bool

namespace Progress

def initial : Progress := ⟨none, none, none, none, false⟩

def request (progress : Progress) : Request :=
  match progress.positionals with
  | some (theme, stylesheets) =>
    if progress.rejected then .usage
    else .build
      { theme, stylesheets, ns := progress.ns, outputDir := progress.outputDir
        logLevel := progress.logLevel }
  | none => .usage

/-- The value of an option; none when the option does not take it. Two hyphens take back an earlier
value. -/
def assign? (switch : Switch) (value : Text) (progress : Progress) : Option Progress :=
  let value := if value = ['-', '-'] then none else some value
  match switch with
  | .help => none
  | .ns => some { progress with ns := value }
  | .outputDir => some { progress with outputDir := value }
  | .logLevel =>
    match value.map Level.ofName? with
    | none => some { progress with logLevel := none }
    | some none => none
    | some level => some { progress with logLevel := level }

/-- Positional arguments in the order in which they stand, two hyphens among them as such. -/
def tokenText : Token → Text
  | .plain argument => argument
  | _ => ['-', '-']

def isPositional : Token → Bool
  | .plain _ => true
  | .separator => true
  | _ => false

/-- A run of positional arguments: the first argument is the theme file, and the separators around
it go with it; of the rest the first two hyphens are left out. -/
def accept (run : List Token) (progress : Progress) : Progress :=
  match progress.positionals, run.dropWhile (· = .separator) with
  | none, first :: rest =>
    let stylesheets := (rest.dropWhile (· = .separator)).map tokenText
    { progress with positionals := some (tokenText first, stylesheets.erase ['-', '-']) }
  | _, _ => { progress with rejected := true }

/-- The tokens are read one after the other; the run holds the positional arguments just read, the
last one first. -/
def read (progress : Progress) (run : List Token) : List Token → Request
  | [] => (if run.isEmpty then progress else progress.accept run.reverse).request
  | token :: rest =>
    if isPositional token then read progress (token :: run) rest
    else
      let progress := if run.isEmpty then progress else progress.accept run.reverse
      match token, rest with
      | .switch .help none, _ => .help
      | .switch switch (some value), rest =>
        match progress.assign? switch value with
        | some progress => read progress [] rest
        | none => .usage
      | .switch switch none, .plain value :: rest =>
        match progress.assign? switch value with
        | some progress => read progress [] rest
        | none => .usage
      | .unknown, rest => read { progress with rejected := true } [] rest
      | _, _ => .usage

end Progress

def readBuild (arguments : List Text) : Request :=
  let tokens := tokens buildSwitches arguments
  if tokens.contains .ambiguous then .usage else Progress.initial.read [] tokens

/-- What a command line asks for. Only help is an option before the command. -/
def read (rejected : Bool) : List Text → Request
  | [] => .usage
  | argument :: rest =>
    if argument = ['-', '-'] then .usage
    else match classify [("--help".toList, .help)] argument with
    | .plain _ =>
      if argument ≠ "build".toList then .usage
      else match readBuild rest with
        | .build options => if rejected then .usage else .build options
        | request => request
    | .switch .help none => .help
    | .unknown => read true rest
    | _ => .usage

end Retheme.CommandLine
