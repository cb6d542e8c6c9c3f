import Retheme.Processor

/-!
# Studios

Processors by name that share stores of variables and publish their style
blocks in one place. While a processor works, the variables of its store are
its shared ones.
-/

namespace Retheme

structure Member where
  processor : Processor
  store : Text

structure Studio where
  members : Entries Member
  stores : Entries Variables
  blocks : Entries Text

namespace Studio

def shared (store : Text) (studio : Studio) : Variables :=
  (Entries.get? store studio.stores).getD []

def processor? (name : Text) (studio : Studio) : Option Processor :=
  (Entries.get? name studio.members).map fun member =>
    { member.processor with
      work := { member.processor.work with globals := studio.shared member.store } }

/-- A step of one processor. What it does to the shared variables is seen by all processors of the
same store. A name without a processor fails. -/
def within {α : Type} (name : Text) (step : Step Processor α) : Step Studio α := fun studio =>
  match Entries.get? name studio.members, studio.processor? name with
  | some member, some processor =>
    let (result, processor) := Step.run step processor
    (result, { studio with
      members := Entries.set name { member with processor } studio.members
      stores := Entries.set member.store processor.work.globals studio.stores })
  | _, _ => (.error .wrongKind, studio)

/-- A block is published in place of an earlier one of the same identifier. -/
def publish (id block : Text) (studio : Studio) : Studio :=
  { studio with blocks := Entries.set id block studio.blocks }

/-- A theme is added to a processor, and its style block published, if it gives one. -/
def addTheme (name : Text) (sheets : List Sheet) (theme : Theme) : Step Studio Unit := do
  let ns ← within name (Step.read Processor.ns)
  match ← within name (Processor.addTheme sheets theme) with
  | some block => Step.update (publish (Processor.blockId ns) block)
  | none => pure ()

end Studio

end Retheme
