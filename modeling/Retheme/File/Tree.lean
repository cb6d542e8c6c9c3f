import Retheme.File.Path
import Retheme.Text.Utf8

/-!
# File trees

Directories and files with their bytes, and the places that are closed or
read-only. There are no links. A path is followed name by name, and every name
but the last has to be a directory that is open. Directories on the way to a file
are made on demand.
-/

namespace Retheme

inductive FileFault where
  | missing
  | isDirectory
  | notDirectory
  | nameTooLong
  /-- A place is closed or read-only. -/
  | denied
  /-- The path holds the character zero. -/
  | invalidPath
  deriving DecidableEq, Repr

abbrev Location := List Text

/-- Directories, files with their bytes, and the directory that relative paths start from. -/
structure FileTree where
  directories : List Location
  files : List (Location × List UInt8)
  working : Location
  /-- Files that may be neither read nor written, and directories that may not be entered. -/
  closed : List Location := []
  /-- Files that may not be written, and directories in which nothing may be made. -/
  readOnly : List Location := []

namespace FileTree

def isDirectory (tree : FileTree) (place : Location) : Bool :=
  place.isEmpty || tree.directories.contains place

def bytes? (tree : FileTree) (place : Location) : Option (List UInt8) :=
  (tree.files.find? (·.1 = place)).map Prod.snd

def isOpen (tree : FileTree) (place : Location) : Bool := !tree.closed.contains place

def mayChange (tree : FileTree) (place : Location) : Bool :=
  tree.isOpen place && !tree.readOnly.contains place

/-- Whether the bytes of a file may be written; a new file is a change of its directory, too. -/
def mayWrite (tree : FileTree) (place : Location) : Bool :=
  tree.mayChange place && ((tree.bytes? place).isSome || tree.mayChange place.dropLast)

def nameLimit : Nat := 255

def follow (tree : FileTree) (place : Location) : List Text → Except FileFault Location
  | [] => .ok place
  | name :: names =>
    if tree.isDirectory place then
      if !tree.isOpen place then .error .denied
      else if name = ['.', '.'] then follow tree place.dropLast names
      else if nameLimit < (Text.utf8 name).length then .error .nameTooLong
      else follow tree (place ++ [name]) names
    else if (tree.bytes? place).isSome then .error .notDirectory
    else .error .missing

def start (tree : FileTree) (path : FilePath) : Location :=
  if path.root.isEmpty then tree.working else []

def pathLimit : Nat := 4096

/-- A path leads nowhere when it holds the character zero or is too long. -/
def checkPath (path : FilePath) : Except FileFault Unit :=
  if path.names.any (·.contains '\x00') then .error .invalidPath
  else if pathLimit ≤ (Text.utf8 path.text).length then .error .nameTooLong
  else .ok ()

def locate (tree : FileTree) (path : FilePath) : Except FileFault Location := do
  checkPath path
  tree.follow (tree.start path) path.names

def read (tree : FileTree) (path : FilePath) : Except FileFault (List UInt8) := do
  let place ← tree.locate path
  if tree.isDirectory place then throw .isDirectory
  match tree.bytes? place with
  | some bytes => if tree.isOpen place then return bytes else throw .denied
  | none => throw .missing

/-- Whether something is at a path. A path that leads nowhere has nothing, but where the way there
cannot be told this cannot be told either. -/
def isPresent (tree : FileTree) (path : FilePath) : Except FileFault Bool :=
  match tree.locate path with
  | .ok place => .ok (tree.isDirectory place || (tree.bytes? place).isSome)
  | .error .nameTooLong => .error .nameTooLong
  | .error .denied => .error .denied
  | .error _ => .ok false

/-- The tree in which every name on the way from a place is a directory. When that is not possible,
the directories on the way up to the fault are there. -/
def makeDirectories (tree : FileTree) (place : Location) :
    List Text → FileTree × Except FileFault Unit
  | [] => (tree, .ok ())
  | name :: names =>
    if !tree.isOpen place then (tree, .error .denied)
    else if name = ['.', '.'] then makeDirectories tree place.dropLast names
    else
      let next := place ++ [name]
      if tree.isDirectory next then makeDirectories tree next names
      else if (tree.bytes? next).isSome then (tree, .error .notDirectory)
      else if nameLimit < (Text.utf8 name).length then (tree, .error .nameTooLong)
      else if !tree.mayChange place then (tree, .error .denied)
      else makeDirectories { tree with directories := tree.directories ++ [next] } next names

def makePath (tree : FileTree) (path : FilePath) : FileTree × Except FileFault Unit :=
  match checkPath path with
  | .ok () => tree.makeDirectories (tree.start path) path.names
  | .error fault => (tree, .error fault)

def put (tree : FileTree) (place : Location) (bytes : List UInt8) : FileTree :=
  { tree with files := tree.files.filter (·.1 ≠ place) ++ [(place, bytes)] }

def writeFile (tree : FileTree) (path : FilePath) (bytes : List UInt8) :
    Except FileFault FileTree := do
  let place ← tree.locate path
  if tree.isDirectory place then throw .isDirectory
  if tree.mayWrite place then return tree.put place bytes else throw .denied

/-- The tree with a file at a path. The directories above it are made, and stay when the file cannot
be written. -/
def write (tree : FileTree) (path : FilePath) (bytes : List UInt8) :
    FileTree × Except FileFault Unit :=
  match tree.makePath path.parent with
  | (tree, .error fault) => (tree, .error fault)
  | (tree, .ok ()) =>
    match tree.writeFile path bytes with
    | .ok tree => (tree, .ok ())
    | .error fault => (tree, .error fault)

end FileTree

inductive TextFault where
  | file (fault : FileFault)
  /-- The bytes are not UTF-8. -/
  | notUtf8
  deriving DecidableEq, Repr

def FileTree.readText (tree : FileTree) (path : FilePath) : Except TextFault Text :=
  match tree.read path with
  | .error fault => .error (.file fault)
  | .ok bytes =>
    match Text.ofUtf8? bytes with
    | some text => .ok text.normalizeLines
    | none => .error .notUtf8

end Retheme
