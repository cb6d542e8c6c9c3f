import Retheme.File.Tree
import Retheme.Processor

/-!
# Sources of style sheets

A style sheet is held in memory under its address, fetched from the web, or
read from a file. What cannot be fetched says where it was looked for and why.
How the web is asked is left open: the text at an address there, or the fault, is
part of the world.
-/

namespace Retheme

inductive RemoteFault where
  /-- The web does not answer with one. -/
  | unanswered
  /-- What was asked for is not an address that can be asked. -/
  | invalidAddress
  deriving DecidableEq, Repr

inductive SourceFault where
  | file (fault : FileFault)
  | remote (fault : RemoteFault)
  /-- The home directory in a path is unknown. -/
  | unknownHome
  /-- The bytes are not UTF-8. -/
  | notUtf8
  deriving DecidableEq, Repr

def SourceFault.isExpected : SourceFault → Bool
  | .file .invalidPath => false
  | .file _ => true
  | .remote .unanswered => true
  | .remote .invalidAddress => false
  | .unknownHome => false
  | .notUtf8 => false

/-- Where addresses lead: the user whose home a path may name, the files, and what the web answers
at an address. -/
structure World where
  environment : Environment
  tree : FileTree
  answer : Text → Except RemoteFault Text

namespace World

def isRemote (href : Text) : Bool :=
  "http://".toList.isPrefixOf href || "https://".toList.isPrefixOf href

def path (world : World) (href : Text) : Except SourceFault FilePath :=
  match (FilePath.ofText href).expandHome? world.environment with
  | some path => .ok path
  | none => .error .unknownHome

def fetch (world : World) (href : Text) : Except SourceFault Text :=
  if isRemote href then
    match world.answer href with
    | .ok text => .ok text
    | .error fault => .error (.remote fault)
  else do
    match world.tree.readText (← world.path href) with
    | .ok text => return text
    | .error (.file fault) => throw (.file fault)
    | .error .notUtf8 => throw .notUtf8

def fetchBytes (world : World) (href : Text) : Except SourceFault (List UInt8) :=
  if isRemote href then
    match world.answer href with
    | .ok text => .ok text.utf8
    | .error fault => .error (.remote fault)
  else do
    match world.tree.read (← world.path href) with
    | .ok bytes => return bytes
    | .error fault => throw (.file fault)

def sheet (world : World) (href : Text) : Sheet :=
  { href
    reports := if isRemote href then [.fetching href] else []
    content := match world.fetch href with
      | .ok text => .ok text
      | .error fault => .error (if fault.isExpected then .unavailable else .broken) }

end World

abbrev InlineSheets := Entries Text

namespace InlineSheets

def unknownReason : Text := "unknown style sheet"

def message (href reason : Text) : Text := "Failed to fetch " ++ href ++ ": " ++ reason

def sheet (sheets : InlineSheets) (href : Text) : Sheet :=
  { href, reports := []
    content := match Entries.get? href sheets with
      | some text => .ok text
      | none => .error .unavailable }

end InlineSheets

end Retheme
