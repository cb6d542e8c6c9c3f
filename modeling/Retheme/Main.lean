import Retheme.CommandLine.Build
import Retheme.Web.Remote

/-!
# The program

Reads the files a command line looks at into a tree, runs the command line on
it, prints what it prints, and writes the files it leaves behind. No web is at
hand, so every address there is without an answer.
-/

open Retheme

def setting? (name : String) : IO (Option Text) := return (← IO.getEnv name).map String.toList

def currentUser : IO Environment := do
  return {
    home := (← setting? "HOME").getD ['/']
    users := []
    configDirectory := ← setting? "STYLE_SHIFTER_CONFIG_DIR"
    configHome := ← setting? "XDG_CONFIG_HOME" }

def survey (tree : FileTree) (path : FilePath) : IO FileTree := do
  for count in List.range path.names.length do
    let above : FilePath := { path with names := path.names.take (count + 1) }
    if let .ok bytes ← (IO.FS.readBinFile (String.ofList above.text)).toBaseIO then
      return (tree.write above bytes.toList).1
  return tree

def surveyWorld (arguments : List Text) : IO World := do
  let environment ← currentUser
  let working := (FilePath.ofText (toString (← IO.currentDir)).toList).names
  let directories := (List.range working.length).map fun count => working.take (count + 1)
  let mut world : World :=
    { environment, tree := { directories, files := [], working }, answer := Remote.answer [] }
  if let some path := Settings.path? environment then
    world := { world with tree := ← survey world.tree path }
  for path in CommandLine.paths world arguments do
    world := { world with tree := ← survey world.tree path }
  return world

def writeNew (before after : FileTree) : IO Unit := do
  for (place, bytes) in after.files do
    if before.bytes? place ≠ some bytes then
      let path (names : Location) : String := String.ofList ('/' :: Text.join ['/'] names)
      IO.FS.createDirAll (path place.dropLast)
      IO.FS.writeBinFile (path place) ⟨bytes.toArray⟩

def main (arguments : List String) : IO UInt32 := do
  let arguments := arguments.map String.toList
  let world ← surveyWorld arguments
  let outcome := CommandLine.run world arguments
  for event in outcome.events do
    IO.eprintln (String.ofList (event.level.name ++ ": " ++ event.message))
  if outcome.broken.isSome then IO.eprintln "The run broke off."
  match outcome.printed with
  | some printed => IO.print (String.ofList printed)
  | none => IO.eprintln (String.ofList CommandLine.usage)
  writeNew world.tree outcome.tree
  return outcome.code.toUInt32
