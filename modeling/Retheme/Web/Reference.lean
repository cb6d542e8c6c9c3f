import Retheme.Web.Address

/-!
# References

A reference names an address relative to another one. Its path, if it has one,
continues that of the base behind the last slash; points in it are resolved,
and empty segments in between are dropped. What it lacks it has from the base.
-/

namespace Retheme.Web

/-- The parts of a reference as text, empty where there are none. Parameters stand behind a
semicolon in the last segment of the path. -/
structure Reference where
  scheme : Text
  authority : Text
  path : Text
  parameters : Text
  query : Text
  fragment : Text
  deriving DecidableEq, Repr

namespace Reference

/-- The schemes whose addresses references can be relative to; a reference may have none. -/
def hierarchical : List String :=
  ["", "ftp", "http", "gopher", "nntp", "imap", "wais", "file", "https", "shttp", "mms", "prospero",
    "rtsp", "rtspu", "sftp", "svn", "svn+ssh", "ws", "wss"]

def parametric : List String :=
  ["", "ftp", "http", "imap", "https", "shttp", "mms", "prospero", "rtsp", "rtspu", "sftp"]

def cutParameters (path : Text) : Text × Text :=
  let last := Text.lastPiece '/' path
  match Text.cut? [';'] last with
  | some (segment, parameters) =>
    (path.take (path.length - last.length) ++ segment, parameters)
  | none => (path, [])

def ofText (scheme text : Text) : Reference :=
  let (scheme, rest) := match Address.cutScheme text with
    | ([], _) => (scheme, text)
    | (own, rest) => (own, rest)
  let (authority, rest) := Address.cutAuthority rest
  let (rest, fragment) := Address.cutFirst '#' rest
  let (path, query) := Address.cutFirst '?' rest
  let (path, parameters) :=
    if parametric.contains (String.ofList scheme) then cutParameters path else (path, [])
  { scheme, authority, path, parameters, query := query.getD [], fragment := fragment.getD [] }

def text (reference : Reference) : Text :=
  let marked (mark : Char) (part : Text) : Text := if part.isEmpty then [] else mark :: part
  let path := reference.path ++ marked ';' reference.parameters
  let path := if path.isEmpty || path.head? = some '/' then path else '/' :: path
  reference.scheme ++ [':', '/', '/'] ++ reference.authority ++ path ++
    marked '?' reference.query ++ marked '#' reference.fragment

/-- The segments of a path in which points are resolved; points that lead above the start are
dropped. -/
def resolvePoints (kept : List Text) : List Text → List Text
  | [] => kept.reverse
  | segment :: rest =>
    if segment = ['.'] then resolvePoints kept rest
    else if segment = ['.', '.'] then resolvePoints (kept.drop 1) rest
    else resolvePoints (segment :: kept) rest

def dropEmpty (segments : List Text) : List Text :=
  match segments with
  | first :: rest => first :: rest.dropLast.filter (!·.isEmpty) ++ rest.getLast?.toList
  | [] => []

/-- The path that a path leads to from another one. Points at the end leave a slash there. -/
def continuePath (base path : Text) : Text :=
  let own := path.split '/'
  let segments :=
    if path.head? = some '/' then own
    else
      let above := base.split '/'
      dropEmpty ((if above.getLast? = some [] then above else above.dropLast) ++ own)
  let resolved := resolvePoints [] segments
  let slashed := match segments.getLast? with
    | some last => last = ['.'] || last = ['.', '.']
    | none => false
  let path := Text.join ['/'] (if slashed then resolved ++ [[]] else resolved)
  if path.isEmpty then ['/'] else path

def join (base reference : Text) : Text :=
  if reference.isEmpty then base
  else
    let origin := ofText [] base
    let target := ofText origin.scheme reference
    if target.scheme ≠ origin.scheme || !hierarchical.contains (String.ofList target.scheme) then
      reference
    else if !target.authority.isEmpty then target.text
    else if target.path.isEmpty && target.parameters.isEmpty then
      { origin with
        query := if target.query.isEmpty then origin.query else target.query
        fragment := target.fragment }.text
    else
      { target with
        authority := origin.authority
        path := continuePath origin.path target.path }.text

end Reference

def Address.join? (base reference : Address) : Option Address :=
  Address.read? (Reference.join base.text reference.text)

end Retheme.Web
