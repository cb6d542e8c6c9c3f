import Retheme.Entries

/-!
# File paths

A path is a root and the names behind it. Reading a path drops empty names and
single points; names of two points stay. Exactly two slashes at the start are
a root of their own.
-/

namespace Retheme

structure FilePath where
  root : Text
  names : List Text
  deriving DecidableEq, Repr

namespace FilePath

def rootOf : Text → Text
  | '/' :: '/' :: '/' :: _ => ['/']
  | '/' :: '/' :: _ => ['/', '/']
  | '/' :: _ => ['/']
  | _ => []

def ofText (text : Text) : FilePath :=
  ⟨rootOf text, (text.split '/').filter fun name => !name.isEmpty && name ≠ ['.']⟩

def text (path : FilePath) : Text :=
  let text := path.root ++ Text.join ['/'] path.names
  if text.isEmpty then ['.'] else text

def append (path other : FilePath) : FilePath :=
  if other.root.isEmpty then ⟨path.root, path.names ++ other.names⟩ else other

def child (path : FilePath) (name : Text) : FilePath := path.append (ofText name)

def parent (path : FilePath) : FilePath := ⟨path.root, path.names.dropLast⟩

end FilePath

/-- What the paths of a user depend on: the own home directory, those of other users, and the
directories for configuration, where they are set. -/
structure Environment where
  home : Text
  users : Entries Text
  configDirectory : Option Text
  configHome : Option Text

namespace FilePath

def homeOf? (environment : Environment) (user : Text) : Option Text :=
  let home := if user.isEmpty then some environment.home else Entries.get? user environment.users
  home.map fun home =>
    let home := Text.dropEndWhile (· = '/') home
    if home.isEmpty then ['/'] else home

/-- A path whose first name, when it begins with a tilde, is replaced by the home directory. There
is none when the user is unknown or the home directory begins with a tilde itself. -/
def expandHome? (environment : Environment) (path : FilePath) : Option FilePath :=
  match path.root, path.names with
  | [], ('~' :: user) :: names =>
    match homeOf? environment user with
    | none => none
    | some home =>
      if ['~'].isPrefixOf home then none
      else
        let home := ofText home
        some ⟨home.root, home.names ++ names⟩
  | _, _ => some path

end FilePath

end Retheme
