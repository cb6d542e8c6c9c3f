import Retheme.Proofs.Expression.RoundTrip
import Retheme.Proofs.Processor.Addition
import Retheme.Proofs.Sheet.OriginalValue

/-!
# Markers that keep the value

A marker can ask for the value that its declaration has in the sheet and give
it unchanged. What it records is what the sheet reader makes of the value, so
it is the declared value exactly when that is read as a whole.
-/

namespace Retheme

namespace Expression

variable {functions : Registry} {theme : Theme} {source value : Text} {work : Workspace}

def identity : Text := "printf(%1, %value%)"

theorem parse_identity : parse identity =
    .ok (.call "printf" [.literal "%1", .variable "value" "%value%"] identity) := by
  have hc : callParts? identity.strip = some ("printf".toList, "%1, %value%".toList) := by
    decide +kernel
  have hs : splitArguments "%1, %value%" = .ok ["%1".toList, "%value%".toList] := rfl
  have htemplate : parseArgument "%1" = .ok (.literal "%1") := by
    have hname : variableName? "%1" = none := by decide +kernel
    have hpath : isPath "%1" = false := by decide +kernel
    rw [parseArgument_of_no_call (by decide +kernel), leaf, hname]
    simp only [hpath]
    rfl
  have hvariable : parseArgument "%value%" = .ok (.variable "value" "%value%") := by
    have hname : variableName? "%value%" = some "value".toList := by decide +kernel
    rw [parseArgument_of_no_call (by decide +kernel), leaf, hname]
  rw [parse_of_callParts?_eq_some hc, parseArguments, hs]
  simp only [bind, Except.bind, List.mapM_cons, htemplate, hvariable]
  rfl

theorem run_evaluate_identity {position : Nat}
    (hp : Entries.get? "printf" functions = some (.builtin .printf))
    (hn : Variables.lookup? Variables.reserved work.locals work.globals = none)
    (hv : Sheet.declaredValue? source position = some value) :
    Step.run (evaluate functions ⟨identity, theme, source, position⟩) work =
      (.ok (some value), work) := by
  have htext : Value.text value ≠ .null := nofun
  have hreserved : "value".toList = Variables.reserved := rfl
  have ho : Sheet.offset source (position : Int) = position := by
    simp [Sheet.offset]
  have hr : Step.run (resolve functions ⟨identity, theme, source, position⟩
      (.variable "value" "%value%")) work = (.ok (.text value), work) := by
    simp only [resolve, Step.run_bind, Step.run_pure, Step.run_read, hreserved, hn, if_true, ho, hv]
  exact @run_evaluate_token functions ⟨identity, theme, source, position⟩ work _ _ _ parse_identity
    hp hr htext

end Expression

namespace Processor

variable {source : Text}

/-- The built-in functions are there, no hook is, and no variable stands for the original value. -/
structure ReadsOriginal (processor : Processor) : Prop where
  functions : Entries.get? "printf" processor.functions = some (.builtin .printf)
  hooks : processor.hooks = []
  unset : Variables.lookup? Variables.reserved processor.work.locals processor.work.globals = none

/-- A value is read as it was declared exactly when nothing in it ends it before, and then, and only
then, a marker that asks for it records it. -/
theorem original_value_iff (declaration : Sheet.ValuedDeclaration source) :
    (Sheet.declaredValue? source declaration.marker.start = some declaration.value ↔
        Sheet.IsReadWhole declaration.value) ∧
      ∀ (theme : Theme) (processor : Processor), ReadsOriginal processor →
        declaration.marker.expression = Expression.identity →
        (Sheet.contextAt source declaration.marker.start).isValid = true →
        ∃ value, Step.run (scanMarker source theme declaration.marker) processor =
            (.ok true,
              processor.recorded (processor.overrideOf source theme declaration.marker value)) ∧
          (value = declaration.value ↔ Sheet.IsReadWhole declaration.value) := by
  refine ⟨declaration.declaredValue?_eq_iff, fun theme processor hr he hv => ?_⟩
  obtain ⟨value, hread⟩ : ∃ value,
      Sheet.declaredValue? source declaration.marker.start = some value :=
    ⟨_, declaration.declaredValue?_eq⟩
  have hrun : Step.run (evaluate declaration.marker.expression theme source
      declaration.marker.start) processor = (.ok (some value), processor) := by
    simp only [evaluate, Step.run_bind, Step.run_read, onWork, Step.run_within, he,
      Expression.run_evaluate_identity hr.functions hr.unset hread]
  rw [run_evaluate, Prod.mk.injEq] at hrun
  refine ⟨value, ?_, ?_⟩
  · rw [run_scanMarker hr.hooks, siteOf]
    simp only [hrun.1, hrun.2, hv, if_true]
  · rw [← declaration.declaredValue?_eq_iff, hread, Option.some.injEq]

def keptSheet : Text := ".a \x7b /*![printf(%1, %value%)]*/ color: red !important; \x7d"

def keptDeclaration : Sheet.ValuedDeclaration keptSheet where
  marker := ⟨Expression.identity, 5, 31⟩
  prop := " color"
  after := " red !important; \x7d"
  gap := " "
  value := "red"
  flag := " !important"
  rest := " \x7d"
  found := by decide +kernel
  behind := by decide
  not_mem_prop := by decide
  prop_chars := by decide
  prop_visible := by decide
  after_eq := by decide
  gap_blank := Text.isBlank_of_mem_space
  value_trimmed := ⟨⟨'r', rfl, by decide⟩, ⟨'d', rfl, by decide⟩⟩
  value_brace := by decide
  value_flag := by decide
  flag_eq := .inr ⟨[' '], Text.isBlank_of_mem_space, rfl⟩

theorem original_value_iff_kept :
    ReadsOriginal (initial "demo" []) ∧ keptDeclaration.marker.expression = Expression.identity ∧
      (Sheet.contextAt keptSheet keptDeclaration.marker.start).isValid = true ∧
      Sheet.IsReadWhole keptDeclaration.value ∧
      ∃ value, Step.run (scanMarker keptSheet ⟨"demo", "dark", [], none⟩ keptDeclaration.marker)
          (initial "demo" []) =
            (.ok true, (initial "demo" []).recorded ((initial "demo" []).overrideOf keptSheet
              ⟨"demo", "dark", [], none⟩ keptDeclaration.marker value)) ∧
        (value = keptDeclaration.value ↔ Sheet.IsReadWhole keptDeclaration.value) := by
  have hr : ReadsOriginal (initial "demo" []) := ⟨rfl, rfl, rfl⟩
  have he : keptDeclaration.marker.expression = Expression.identity := rfl
  have hv : (Sheet.contextAt keptSheet keptDeclaration.marker.start).isValid = true := by
    decide +kernel
  exact ⟨hr, he, hv, ⟨by decide, by decide⟩, (original_value_iff keptDeclaration).2 _ _ hr he hv⟩

end Processor

end Retheme
