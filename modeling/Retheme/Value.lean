import Retheme.Number
import Retheme.Entries
import Retheme.Text.Quoted

/-!
# Values

A value is what theme data holds and what functions take and give: nothing, a
truth value, a number, a text, a list, or a map with ordered keys. It has two
texts: the one shown in messages and templates, and the one placed in a
declaration.
-/

namespace Retheme

inductive Value where
  | null
  | bool (b : Bool)
  | number (n : Number)
  | text (s : Text)
  | list (items : List Value)
  | map (fields : List (Text × Value))

namespace Value

instance : Inhabited Value := ⟨null⟩

abbrev int (n : Int) : Value := number (.int n)

abbrev float (x : Float) : Value := number (.float x)

-- ---------------------------------------------------------------------------
-- Truth
-- ---------------------------------------------------------------------------

def isNull : Value → Bool
  | null => true
  | _ => false

/-- Whether a value is neither nothing, nor false, nor zero, nor empty. -/
def truthy : Value → Bool
  | null => false
  | bool b => b
  | number (.int n) => n ≠ 0
  | number (.float x) => x != 0.0
  | text s => !s.isEmpty
  | list items => !items.isEmpty
  | map fields => !fields.isEmpty

-- ---------------------------------------------------------------------------
-- Order
-- ---------------------------------------------------------------------------

/-- The number that a value stands for: a truth value counts as one or zero. -/
def asNumber? : Value → Option Number
  | number n => some n
  | bool b => some (.int (if b then 1 else 0))
  | _ => none

/-- Whether one value is strictly less than another. Numbers compare with numbers and texts with
texts; no other two values have an order. -/
def less (a b : Value) : Except Failure Bool :=
  match a, b with
  | text s, text t => .ok (Text.precedes s t)
  | _, _ => match a.asNumber?, b.asNumber? with
    | some m, some n => .ok (m.less n)
    | _, _ => .error .wrongKind

/-- A value kept within an inclusive range. The result is the value itself or one of the ends, of
the kind it was given as; the upper end is compared first. -/
def clamp (value low high : Value) : Except Failure Value := do
  let capped := if ← less value high then value else high
  return if ← less low capped then capped else low

-- ---------------------------------------------------------------------------
-- Texts
-- ---------------------------------------------------------------------------

mutual
def nested : Value → Text
  | null => "None"
  | bool b => if b then "True".toList else "False".toList
  | number (.int n) => Integer.text n
  | number (.float x) => Decimal.floatText x
  | text s => s.quoted
  | list items => '[' :: Text.join ", " (nestedItems items) ++ [']']
  | map fields => '{' :: Text.join ", " (nestedFields fields) ++ ['}']

def nestedItems : List Value → List Text
  | [] => []
  | item :: items => nested item :: nestedItems items

def nestedFields : List (Text × Value) → List Text
  | [] => []
  | (key, item) :: fields => (key.quoted ++ ": " ++ nested item) :: nestedFields fields
end

mutual
def hasLongInteger : Value → Bool
  | number (.int n) => Integer.isLong n
  | list items => anyLongItem items
  | map fields => anyLongField fields
  | _ => false

def anyLongItem : List Value → Bool
  | [] => false
  | item :: items => hasLongInteger item || anyLongItem items

def anyLongField : List (Text × Value) → Bool
  | [] => false
  | (_, item) :: fields => hasLongInteger item || anyLongField fields
end

/-- The text of a value in messages and templates: a text as it is, anything else as it would
stand inside a list. -/
def shown (value : Value) : Except Failure Text :=
  match value with
  | text s => .ok s
  | _ => if value.hasLongInteger then .error .tooManyDigits else .ok value.nested

/-- The text of a value in a declaration; nothing and maps have none. -/
def declared? (value : Value) : Except Failure (Option Text) :=
  match value with
  | null => .ok none
  | map _ => .ok none
  | bool b => .ok (some (if b then "true".toList else "false".toList))
  | number n => n.text.map some
  | _ => (shown value).map some

/-- The number that a value is or begins with; truth values and nothing have none. -/
def leadingNumber? (value : Value) : Except Failure (Option Float) :=
  match value with
  | null => .ok none
  | bool _ => .ok none
  | number n => n.toFloat.map some
  | _ => (shown value).map fun s => (Decimal.leading? s).map Prod.fst

end Value

end Retheme
