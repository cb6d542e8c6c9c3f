import Retheme.Cascade

/-!
# A registry of shared maps

A registry keeps the maps it is given and copies none. A map may be registered
more than once and stand in a field of another map, and one that is filled is
filled wherever it stands. So maps have places: the lists of a registry name
places, and so do the fields of maps.
-/

namespace Retheme

abbrev Place := Nat

/-- What a field of a map holds: a value of its own, items, or a map that may stand elsewhere, too. -/
inductive Item where
  | plain (value : Value)
  | list (items : List Item)
  | shared (place : Place)

namespace Item

def isNull : Item → Bool
  | plain value => value.isNull
  | _ => false

def filled (ns field : Text) : Item → Item
  | plain value => plain (Cascades.filled ns field value)
  | item => item

end Item

structure CascadeRegistry where
  cascades : Cascades Place
  fields : Place → Entries Item

namespace CascadeRegistry

def initial (fields : Place → Entries Item) : CascadeRegistry := ⟨[], fields⟩

def listed (ns : Text) (registry : CascadeRegistry) : List Place :=
  (Entries.get? ns registry.cascades).getD []

def register (ns : Text) (fallback : Place) (index : Option Int) (registry : CascadeRegistry) :
    CascadeRegistry :=
  { registry with cascades := registry.cascades.register ns fallback index }

def fillField (ns : Text) : Entries Item → Text × Item → Entries Item :=
  Cascades.fillMissing Item.isNull (Item.filled ns)

def fill (ns : Text) (target fallback : Place) (fields : Place → Entries Item) :
    Place → Entries Item :=
  fun place =>
    if place = target then (fields fallback).foldl (fillField ns) (fields target)
    else fields place

def apply (ns : Text) (target : Place) (registry : CascadeRegistry) : CascadeRegistry :=
  { registry with
    fields := (registry.listed ns).foldl (fun fields fallback => fill ns target fallback fields)
      registry.fields }

def clear (ns : Option Text) (registry : CascadeRegistry) : CascadeRegistry :=
  { registry with cascades := registry.cascades.clear ns }

end CascadeRegistry

end Retheme
