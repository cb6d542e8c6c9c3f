import Retheme.File.Source
import Retheme.Web.Reference

/-!
# Remote resources

A client of the web for the program to run with: requests to addresses, answered by
a table of replies. A reply that names another place is followed there, a limited
number of times; only a reply with a status of success gives a text.
-/

namespace Retheme

open Web (Address)

-- ---------------------------------------------------------------------------
-- Replies
-- ---------------------------------------------------------------------------

inductive Reply where
  /-- The connection is refused. -/
  | refused
  | status (code : Nat) (text : Text) (location : Option Text)

abbrev Replies := Entries Reply

namespace Remote

inductive Fault where
  | refused
  /-- The last status is not one of success. -/
  | unsuccessful
  | tooManyRedirects
  /-- The location that a reply names is no address. -/
  | invalidLocation
  /-- What was asked for, or is to be asked for next, is no address. -/
  | invalidAddress
  /-- The address says where, but not how to ask there. -/
  | noScheme
  /-- A host or a location cannot be sent with the characters of ASCII. -/
  | notAscii
  /-- The name of a host cannot be shown. -/
  | label (fault : Web.LabelFault)
  deriving DecidableEq, Repr

def Fault.isExpected : Fault → Bool
  | refused | unsuccessful | tooManyRedirects | invalidLocation => true
  | invalidAddress | noScheme | notAscii | label _ => false

-- ---------------------------------------------------------------------------
-- Where a reply leads on to
-- ---------------------------------------------------------------------------

def redirectLimit : Nat := 20

def leadsOn (code : Nat) : Bool := [301, 302, 303, 307, 308].contains code

def checkAscii (text : Text) : Except Fault Unit :=
  if text.all Web.Punycode.isBasic then .ok () else .error .notAscii

def expectAddress (fault : Fault) : Option Address → Except Fault Address
  | some address => .ok address
  | none => .error fault

def shownHost (address : Address) : Except Fault Text :=
  match Web.Host.shown address.host with
  | .ok host => .ok host
  | .error fault => .error (.label fault)

def completeHost (base address : Address) : Except Fault Address := do
  if address.scheme.isEmpty || !(← shownHost address).isEmpty then return address
  expectAddress .invalidAddress (address.withHost? (← shownHost base))

def completeFragment (base address : Address) : Except Fault Address :=
  match base.fragment.getD [], address.fragment.getD [] with
  | c :: fragment, [] =>
    expectAddress .invalidAddress (address.withFragment? (Web.Escape.read (c :: fragment)))
  | _, _ => .ok address

/-- The address that a location leads on to. Both hosts have to be such that they can be shown. -/
def nextAddress (base : Address) (location : Text) : Except Fault Address := do
  let address ← expectAddress .invalidLocation (Address.read? location)
  let address ← completeHost base address
  let address ←
    if address.isAbsolute then pure address
    else expectAddress .invalidAddress (base.join? address)
  let address ← completeFragment base address
  let _ ← shownHost address
  let _ ← shownHost base
  checkAscii address.host
  return address

-- ---------------------------------------------------------------------------
-- Requests
-- ---------------------------------------------------------------------------

/-- Whether the text of an address begins with a scheme: a name in front of a colon. -/
def hasScheme (address : Text) : Bool :=
  match Address.breakAt ['/', ':'] address with
  | (_ :: _, ':' :: _) => true
  | _ => false

/-- The text at an address, and at the places it leads on to. Where there is no reply, nothing is
found. -/
def follow (replies : Replies) (redirects : Nat) (address : Address) : Except Fault Text := do
  let (code, text, location) ← match Entries.get? address.text replies with
    | none => pure (404, [], none)
    | some .refused => throw .refused
    | some (.status code text location) => pure (code, text, location)
  checkAscii (location.getD [])
  if !hasScheme address.text then throw .noScheme
  match location.filter fun _ => leadsOn code with
  | none => if 200 ≤ code && code < 300 then return text else throw .unsuccessful
  | some location =>
    let next ← nextAddress address location
    match redirects with
    | 0 => throw .tooManyRedirects
    | redirects + 1 => follow replies redirects next

/-- The text at an address. What lacks a host is looked for by its path alone. -/
def fetch (replies : Replies) (href : Text) : Except Fault Text := do
  let address ← expectAddress .invalidAddress (Address.read? href)
  let address ←
    if address.isAbsolute then pure address
    else expectAddress .invalidAddress address.rooted?
  checkAscii address.host
  follow replies redirectLimit address

def answer (replies : Replies) (href : Text) : Except RemoteFault Text :=
  match fetch replies href with
  | .ok text => .ok text
  | .error fault => .error (if fault.isExpected then .unanswered else .invalidAddress)

end Remote

end Retheme
