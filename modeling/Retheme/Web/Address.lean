import Retheme.Number.Reader
import Retheme.Web.Host

/-!
# Addresses

An address has a scheme, a user, a host, a port, a path, a query and a
fragment, each of which may be missing. It is kept in one form: the scheme in
small letters, the usual port of the scheme left out, single and double points
in the path resolved, and every character that does not stand for itself
escaped.
-/

namespace Retheme.Web

structure Address where
  scheme : Text
  user : Text
  host : Text
  port : Option Int
  path : Text
  query : Option Text
  fragment : Option Text
  deriving DecidableEq, Repr

namespace Address

-- ---------------------------------------------------------------------------
-- The parts of a text
-- ---------------------------------------------------------------------------

structure Written where
  scheme : Text
  user : Text
  host : Text
  port : Text
  path : Text
  query : Option Text
  fragment : Option Text

def breakAt (stops : List Char) (text : Text) : Text × Text :=
  (text.takeWhile (!stops.contains ·), text.dropWhile (!stops.contains ·))

def cutLast? (separator : Char) (text : Text) : Option (Text × Text) :=
  if text.contains separator then
    some ((Text.dropEndWhile (· != separator) text).dropLast,
      Text.takeEndWhile (· != separator) text)
  else none

def isSchemeChar (c : Char) : Bool :=
  Text.isAsciiLetter c || Text.isAsciiDigit c || c = '+' || c = '.' || c = '-'

/-- The scheme in front of a colon and the text behind it. A colon at the start has an empty scheme
in front. -/
def cutScheme (text : Text) : Text × Text :=
  match Text.cut? [':'] text with
  | some (scheme, rest) =>
    if scheme.all isSchemeChar && scheme.head?.all Text.isAsciiLetter then (scheme, rest)
    else ([], text)
  | none => ([], text)

def cutAuthority : Text → Text × Text
  | '/' :: '/' :: rest => breakAt ['/', '?', '#'] rest
  | text => ([], text)

def cutFirst (separator : Char) (text : Text) : Text × Option Text :=
  match Text.cut? [separator] text with
  | some (before, after) => (before, some after)
  | none => (text, none)

/-- User, host and port of an authority. The user ends at the last at sign. A host in brackets ends
at the last bracket, any other one at a colon; a colon in front of the port is left out. -/
def cutHost (authority : Text) : Text × Text × Text :=
  let (user, rest) := (cutLast? '@' authority).getD ([], authority)
  let host := match rest, cutLast? ']' rest with
    | '[' :: _, some (inner, _) => inner ++ [']']
    | _, _ => rest.takeWhile (· != ':')
  match rest.drop host.length with
  | ':' :: port => (user, host, port)
  | port => (user, host, port)

def Written.ofText (text : Text) : Written :=
  let (scheme, rest) := cutScheme text
  let (authority, rest) := cutAuthority rest
  let (rest, fragment) := cutFirst '#' rest
  let (path, query) := cutFirst '?' rest
  let (user, host, port) := cutHost authority
  { scheme, user, host, port, path, query, fragment }

-- ---------------------------------------------------------------------------
-- The form that is kept
-- ---------------------------------------------------------------------------

def usualPort? (scheme : Text) : Option Int :=
  if scheme = "http".toList || scheme = "ws".toList then some 80
  else if scheme = "https".toList || scheme = "wss".toList then some 443
  else if scheme = "ftp".toList then some 21
  else none

/-- The port that a text gives for a scheme as it is written, in small letters or not; none when the
text is no number. -/
def readPort? (scheme port : Text) : Option (Option Int) :=
  if port.isEmpty then some none
  else (Decimal.readInteger? port).map fun port =>
    if usualPort? scheme = some port then none else some port

/-- The segments of a path without those of one point, and without those that two points take back.
The empty segment in front of the first slash stays. -/
def resolvePoints (kept : List Text) : List Text → List Text
  | [] => kept.reverse
  | segment :: rest =>
    if segment = ['.'] then resolvePoints kept rest
    else if segment = ['.', '.'] then
      resolvePoints (if kept = [[]] then kept else kept.drop 1) rest
    else resolvePoints (segment :: kept) rest

def cleanPath (path : Text) : Text := Text.join ['/'] (resolvePoints [] (path.split '/'))

def pathFits (hasScheme hasHost : Bool) (path : Text) : Bool :=
  if hasHost then path.isEmpty || path.head? = some '/'
  else hasScheme || !(['/', '/'].isPrefixOf path || path.head? = some ':')

/-- The address with written parts; none when one of them does not fit. -/
def ofWritten? (parts : Written) : Option Address := do
  let user := Escape.write Escape.inUser parts.user
  let host ← Host.canonical? parts.host
  let port ← readPort? parts.scheme parts.port
  let hasScheme := !parts.scheme.isEmpty
  let hasHost := !user.isEmpty || !host.isEmpty || port.isSome
  if !pathFits hasScheme hasHost parts.path then none
  let path := if hasScheme || hasHost then cleanPath parts.path else parts.path
  return {
    scheme := parts.scheme.map Char.toLower, user, host, port
    path := Escape.write Escape.inPath path
    query := parts.query.map (Escape.write Escape.inQuery)
    fragment := parts.fragment.map (Escape.write Escape.inFragment) }

def lengthLimit : Nat := 65536

/-- Whether a text may be an address or a part of one: it is not too long, and has no control
characters of ASCII. -/
def isPlain (text : Text) : Bool :=
  text.length ≤ lengthLimit && !text.any fun c => c < ' ' || c = '\x7f'

def read? (text : Text) : Option Address :=
  if isPlain text then ofWritten? (.ofText text) else none

-- ---------------------------------------------------------------------------
-- Addresses as text
-- ---------------------------------------------------------------------------

def authority (address : Address) : Text :=
  (if address.user.isEmpty then [] else address.user ++ ['@']) ++ Host.text address.host ++
    (match address.port with
      | some port => ':' :: Integer.text port
      | none => [])

def resource (address : Address) : Text :=
  address.path ++
    match address.query with
    | some query => '?' :: query
    | none => []

def text (address : Address) : Text :=
  (if address.scheme.isEmpty then [] else address.scheme ++ [':']) ++
    (if address.authority.isEmpty then [] else '/' :: '/' :: address.authority) ++
    address.resource ++
    (match address.fragment with
      | some fragment => '#' :: fragment
      | none => [])

def isAbsolute (address : Address) : Bool := !address.scheme.isEmpty && !address.host.isEmpty

-- ---------------------------------------------------------------------------
-- Other parts
-- ---------------------------------------------------------------------------

/-- The parts of an address as they would be written; none when one of them is too long. -/
def written? (address : Address) : Option Written :=
  let (user, host, port) := cutHost address.authority
  let parts : Written :=
    { scheme := address.scheme, user, host, port, path := address.path
      query := address.query, fragment := address.fragment }
  if [address.scheme, address.authority, address.path].all isPlain &&
      parts.query.all isPlain && parts.fragment.all isPlain then
    some parts
  else none

def withHost? (address : Address) (host : Text) : Option Address := do
  let host :=
    if host.contains ':' && !(host.head? = some '[' && host.getLast? = some ']') then
      Host.text host
    else host
  let parts ← address.written?
  if isPlain host then ofWritten? { parts with host } else none

def withFragment? (address : Address) (fragment : Text) : Option Address := do
  let parts ← address.written?
  if isPlain fragment then ofWritten? { parts with fragment := some fragment } else none

def rooted? (address : Address) : Option Address :=
  let (path, query) := cutFirst '?' ('/' :: address.resource.dropWhile (· = '/'))
  if isPlain path && query.all isPlain then
    ofWritten?
      { scheme := [], user := [], host := [], port := [], path, query, fragment := none }
  else none

end Address

end Retheme.Web
