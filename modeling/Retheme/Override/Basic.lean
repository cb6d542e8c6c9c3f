import Retheme.Entries

/-!
# Overrides

An override is one declaration under a scoped rule name. A store keeps all of
them, rule by rule, in the order of their recording; what is written into the
style block is the first one of each property.
-/

namespace Retheme

/-- One declaration under a scoped rule name, and the key of the marker it comes from. -/
structure Override where
  rule : Text
  prop : Text
  value : Text
  key : Text
  important : Bool
  deriving DecidableEq, Repr

def Override.declaration (override : Override) : Text :=
  override.prop ++ ": " ++ override.value ++
    (if override.important then " !important;".toList else [';'])

abbrev OverrideStore := Entries (List Override)

namespace OverrideStore

def ofRule (rule : Text) (store : OverrideStore) : List Override :=
  (Entries.get? rule store).getD []

def record (override : Override) (store : OverrideStore) : OverrideStore :=
  Entries.set override.rule (ofRule override.rule store ++ [override]) store

def firstOfProps (seen : List Text) : List Override → List Override
  | [] => []
  | override :: rest =>
    if override.prop ∈ seen then firstOfProps seen rest
    else override :: firstOfProps (override.prop :: seen) rest

/-- A rule of the style block. Every brace that the rule name leaves open is closed behind it. -/
def renderRule (rule : Text) (overrides : List Override) : Text :=
  rule ++ " \x7b " ++
    Text.join [' '] ((firstOfProps [] overrides).map Override.declaration) ++ " \x7d" ++
    List.replicate (rule.count '{' - rule.count '}') '}' ++ ['\n']

def renderFont (family source : Text) : Text :=
  "@font-face \x7b font-family: " ++ family ++ "; src: url('" ++ source ++ "'); \x7d\n"

/-- The style block: the rules in the order of their first records, then the fonts. -/
def render (fonts : Entries Text) (store : OverrideStore) : Text :=
  store.flatMap (fun (rule, overrides) => renderRule rule overrides) ++
    fonts.flatMap fun (family, source) => renderFont family source

end OverrideStore

end Retheme
