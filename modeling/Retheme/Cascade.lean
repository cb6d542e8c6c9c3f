import Retheme.Value
import Retheme.Text.Digit

/-!
# Cascades

A namespace has an ordered list of fallback data. The data of a theme is filled
from it: a field that is missing takes the first fallback value that is not
nothing. A name filled in this way is put under the namespace.
-/

namespace Retheme

/-- The fallbacks of each namespace, in order: their data, or what stands for them. -/
abbrev Cascades (α : Type := Entries Value) := Entries (List α)

namespace Cascades

def nameField : Text := "name"

/-- The place of an insertion into a list of so many items. A negative index counts from the end;
what lies outside the list is moved to its nearer end. -/
def insertionPlace (length : Nat) (index : Int) : Nat :=
  if index < 0 then (index + length).toNat else min index.toNat length

variable {α : Type}

def insertAt (place : Nat) (item : α) (items : List α) : List α :=
  items.take place ++ item :: items.drop place

def inserted (index : Option Int) (item : α) (items : List α) : List α :=
  let place := match index with
    | none => items.length
    | some index => insertionPlace items.length index
  insertAt place item items

def register (ns : Text) (fallback : α) (index : Option Int) (cascades : Cascades α) :
    Cascades α :=
  Entries.set ns (inserted index fallback ((Entries.get? ns cascades).getD [])) cascades

/-- The value a fallback fills in: a name that is a text begins with the namespace. -/
def filled (ns field : Text) (value : Value) : Value :=
  match value with
  | .text s =>
    if field = nameField && !(ns ++ ['-']).isPrefixOf s then .text (ns ++ '-' :: s) else value
  | _ => value

/-- A field of a fallback fills a field that is missing, unless it holds nothing. What is filled in
may depend on the field. -/
def fillMissing (isNull : α → Bool) (filled : Text → α → α) (data : Entries α) (field : Text × α) :
    Entries α :=
  if isNull field.2 || Entries.has field.1 data then data
  else Entries.set field.1 (filled field.1 field.2) data

def fillField (ns : Text) : Entries Value → Text × Value → Entries Value :=
  fillMissing Value.isNull (filled ns)

def apply (ns : Text) (data : Entries Value) (cascades : Cascades) : Entries Value :=
  ((Entries.get? ns cascades).getD []).foldl
    (fun data fallback => fallback.foldl (fillField ns) data)
    data

/-- The fallbacks of one namespace are removed; those of all namespaces when none is named, or one
without characters. -/
def clear (ns : Option Text) (cascades : Cascades α) : Cascades α :=
  match ns with
  | some (c :: rest) => Entries.erase (c :: rest) cascades
  | _ => []

def isClassChar (c : Char) : Bool :=
  Text.isAsciiLetter c || Text.isAsciiDigit c || c = '-' || c = '_'

/-- A class name from a namespace and a name: what may not stand in one becomes a hyphen. -/
def className (ns name : Text) : Text :=
  (ns ++ '-' :: name).map fun c => if isClassChar c then c else '-'

end Cascades

end Retheme
