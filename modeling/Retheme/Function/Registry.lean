import Retheme.Color.Reader
import Retheme.Function.Paint
import Retheme.Function.Recolor
import Retheme.Function.Template
import Retheme.Theme.Basic

/-!
# Registered functions

Functions are found by name, in the order in which the names were registered.
The built-in ones see their arguments only. Three more work on the variables
and custom scopes of a processor, and others are supplied from outside.
-/

namespace Retheme

inductive Builtin where
  | url
  | toPx
  | toRem
  | opacify
  | tint
  | invert
  | printf
  | mapSvgColors
  deriving DecidableEq, Repr

namespace Builtin

def all : List Builtin := [url, toPx, toRem, opacify, tint, invert, printf, mapSvgColors]

def name : Builtin → Text
  | url => "url"
  | toPx => "toPx"
  | toRem => "toRem"
  | opacify => "opacify"
  | tint => "tint"
  | invert => "invert"
  | printf => "printf"
  | mapSvgColors => "mapSvgColors"

def ofName? (name : Text) : Option Builtin := all.find? (·.name = name)

def apply : Builtin → List Value → Report Value
  | url, args => Step.ofExcept (Function.url args)
  | toPx, args => Step.ofExcept (Function.toPx args)
  | toRem, args => Step.ofExcept (Function.toRem args)
  | opacify, args => Function.opacify Color.read? args
  | tint, args => Function.tint Color.read? args
  | invert, args => Function.invert Color.read? args
  | printf, args => Step.ofExcept (Function.printf args)
  | mapSvgColors, args => Function.mapSvgColors args

end Builtin

/-- Where an expression stands: its text, the theme it is evaluated for, the style sheet and the
position of the marker in it. -/
structure Site where
  expression : Text
  theme : Theme
  source : Text
  position : Int

inductive Function where
  | builtin (function : Builtin)
  /-- Reads and sets the variables of the processor. -/
  | locals
  /-- Reads and sets the variables shared with other processors. -/
  | globals
  /-- Registers a custom scope for the rule around the marker. -/
  | ruleScope
  /-- A function supplied from outside. -/
  | custom (apply : Site → List Value → Except Failure Value)

abbrev Registry := Entries Function

namespace Registry

def ofBuiltins (functions : List Builtin) : Registry :=
  Entries.ofPairs (functions.map fun function => (function.name, .builtin function))

def builtins : Registry := ofBuiltins Builtin.all

/-- What a processor starts with: the built-in functions, and those on its own state. -/
def initial : Registry :=
  builtins ++ [("local".toList, .locals), ("global".toList, .globals),
    ("setRuleScope".toList, .ruleScope)]

end Registry

end Retheme
