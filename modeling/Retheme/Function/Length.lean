import Retheme.Value

/-!
# Addresses and lengths

Functions on texts that name a place or measure a length: an address wrapped
for a declaration, a length in pixels, a length relative to the root size.
-/

namespace Retheme.Function

/-- The argument at a place; nothing where there is none. -/
def argument (args : List Value) (index : Nat) : Value := args.getD index .null

def declaredOrEmpty (value : Value) : Except Failure Text := value.declared?.map (·.getD [])

def url (args : List Value) : Except Failure Value :=
  match argument args 0 with
  | .null => .ok .null
  | value => value.declared?.map fun text => .text ("url(" ++ text.getD "None".toList ++ ")")

/-- The first argument in pixels. A length in pixels stays as it is, and of any other text the
number in front counts. -/
def toPx (args : List Value) : Except Failure Value :=
  match argument args 0 with
  | .null => .ok .null
  | value => do
    let text ← declaredOrEmpty value
    if 3 ≤ text.length && "px".toList.isSuffixOf text then return .text text
    match Decimal.leading? text with
    | none => return .null
    | some (x, _) => return .text ((← (Number.float x).text) ++ "px")

/-- The size of the root font that relative lengths refer to unless another is given. -/
def rootSize : Float := 16.0

/-- The number an optional argument begins with, or a default where the argument is absent. -/
def leadingOr (default : Option Float) (arg : Option Value) : Except Failure (Option Float) :=
  match arg with
  | none => .ok default
  | some value => value.leadingNumber?

/-- The first argument as a length relative to the root size. A relative length is first turned
back by the third argument; the second is the new root size. -/
def toRem (args : List Value) : Except Failure Value :=
  match argument args 0 with
  | .null => .ok .null
  | value => do
    let text ← declaredOrEmpty value
    let some (size, rest) := Decimal.leading? text | return .null
    let base ← leadingOr (some rootSize) args[1]?
    let former ← leadingOr (some rootSize) args[2]?
    let some base := base | return .null
    if base ≤ 0.0 then return .null
    let unit := rest.takeWhile (!Text.isBlank ·)
    let size := if unit = "rem".toList then size * former.getD rootSize else size
    return .text ((← (Number.float (size * ((base / rootSize) / rootSize))).text) ++ "rem")

end Retheme.Function
