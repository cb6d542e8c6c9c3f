import Retheme.Value

/-!
# Variables

Variables are named values in the order in which they were first set. One name
is reserved for the value that a declaration has in its sheet and is never set.
-/

namespace Retheme

abbrev Variables := Entries Value

namespace Variables

def reserved : Text := "value"

def assign (vars : Variables) (name : Text) (value : Value) : Variables :=
  if name = reserved then vars else Entries.set name value vars

def lookup? (name : Text) (locals globals : Variables) : Option Value :=
  (Entries.get? name locals).or (Entries.get? name globals)

@[simp]
theorem get?_assign (name other : Text) (value : Value) (vars : Variables) :
    Entries.get? other (assign vars name value) =
      if name = other ∧ name ≠ reserved then some value else Entries.get? other vars := by
  by_cases h : name = reserved <;> simp [assign, h]

end Variables

end Retheme
