import Retheme.Function.Registry
import Retheme.Proofs.Step.Agree

/-!
# Results of the built-in functions

A built-in function that gives a result gives a text or nothing, whatever its
arguments are; in particular it hands no number and no list on. What has been
reported before plays no part in what it gives.
-/

namespace Retheme

def Value.IsTextOrNull : Value → Prop
  | .null | .text _ => True
  | _ => False

namespace Function

variable {value : Value} {args : List Value}

theorem of_bind_eq_ok {α β : Type} {result : Except Failure α} {next : α → Except Failure β}
    {b : β} (h : result >>= next = .ok b) : ∃ a, result = .ok a ∧ next a = .ok b := by
  cases result with
  | error => cases h
  | ok a => exact ⟨a, rfl, h⟩

theorem of_map_eq_ok {α β : Type} {result : Except Failure α} {f : α → β} {b : β}
    (h : result.map f = .ok b) : ∃ a, result = .ok a ∧ f a = b := by
  cases result with
  | error => cases h
  | ok a => exact ⟨a, rfl, Except.ok.inj h⟩

theorem url_result (h : url args = .ok value) : value.IsTextOrNull := by
  rw [url] at h
  split at h
  · cases h
    trivial
  · obtain ⟨text, -, rfl⟩ := of_map_eq_ok h
    trivial

theorem toPx_result (h : toPx args = .ok value) : value.IsTextOrNull := by
  rw [toPx] at h
  split at h
  · cases h
    trivial
  · obtain ⟨text, -, h⟩ := of_bind_eq_ok h
    split at h
    · cases h
      trivial
    · split at h
      · cases h
        trivial
      · obtain ⟨digits, -, h⟩ := of_bind_eq_ok h
        cases h
        trivial

theorem toRem_result (h : toRem args = .ok value) : value.IsTextOrNull := by
  rw [toRem] at h
  split at h
  · cases h
    trivial
  · obtain ⟨text, -, h⟩ := of_bind_eq_ok h
    split at h
    · obtain ⟨base, -, h⟩ := of_bind_eq_ok h
      obtain ⟨former, -, h⟩ := of_bind_eq_ok h
      split at h
      · split at h
        · cases h
          trivial
        · obtain ⟨digits, -, h⟩ := of_bind_eq_ok h
          cases h
          trivial
      · cases h
        trivial
    · cases h
      trivial

theorem printf_token (hv : value ≠ .null) :
    printf [.text "%1", value] = (declaredOrEmpty value).map .text := by
  have hc : chunks "%1" = [.token ['1']] := by decide +kernel
  have he : expand [.text "%1", value] (.token ['1']) = declaredOrEmpty value := by
    cases value with
    | null => exact absurd rfl hv
    | _ => rfl
  simp only [printf, argument, List.getD_cons_zero, Value.shown, bind, Except.bind, hc,
    List.mapM_cons, List.mapM_nil, he]
  cases declaredOrEmpty value <;> simp [pure, Except.pure, Except.map]

theorem printf_result (h : printf args = .ok value) : value.IsTextOrNull := by
  rw [printf] at h
  split at h
  · cases h
    trivial
  · obtain ⟨template, -, h⟩ := of_bind_eq_ok h
    obtain ⟨parts, -, h⟩ := of_bind_eq_ok h
    cases h
    trivial

-- ---------------------------------------------------------------------------
-- Functions that report
-- ---------------------------------------------------------------------------

open Step (Agree)

abbrev AnyLogs (_ _ : List Event) : Prop := True

theorem agree_event (event other : Event) :
    Agree AnyLogs (fun _ => True) (Report.event event) (Report.event other) :=
  Agree.update fun _ _ _ => trivial

theorem agree_null : Agree AnyLogs Value.IsTextOrNull (pure Value.null) (pure Value.null) :=
  Agree.pure trivial

theorem agree_text (text : Text) :
    Agree AnyLogs Value.IsTextOrNull (pure (Value.text text)) (pure (Value.text text)) :=
  Agree.pure trivial

theorem agree_ofExcept {α : Type} (result : Except Failure α) :
    Agree AnyLogs (fun _ => True) (Step.ofExcept result) (Step.ofExcept result) :=
  Agree.ofExcept fun _ _ => trivial

theorem agree_textOf (result : Except Failure Text) :
    Agree AnyLogs Value.IsTextOrNull (do return .text (← Step.ofExcept result))
      (do return .text (← Step.ofExcept result)) :=
  (agree_ofExcept result).bind fun text _ => agree_text text

theorem agree_colorOf (reader : ColorReader) (value : Value) :
    Agree AnyLogs (fun _ => True) (colorOf reader value) (colorOf reader value) := by
  rw [colorOf.eq_def]
  split
  · exact Agree.pure trivial
  · refine (agree_ofExcept _).bind fun text _ => ?_
    dsimp only
    split
    · exact Agree.pure trivial
    · refine (agree_ofExcept _).bind fun color _ => ?_
      split
      · exact Agree.pure trivial
      · exact (agree_event _ _).bind fun _ _ => Agree.pure trivial

theorem agree_opacify (reader : ColorReader) (args : List Value) :
    Agree AnyLogs Value.IsTextOrNull (opacify reader args) (opacify reader args) := by
  rw [opacify.eq_def]
  split
  · exact agree_null
  · refine (agree_colorOf _ _).bind fun color _ => (agree_ofExcept _).bind fun amount _ => ?_
    split
    · split
      · refine (agree_ofExcept _).bind fun shown _ => ?_
        split
        · exact agree_textOf _
        · exact agree_textOf _
      · exact agree_null
    · exact agree_null

theorem agree_tint (reader : ColorReader) (args : List Value) :
    Agree AnyLogs Value.IsTextOrNull (tint reader args) (tint reader args) := by
  rw [tint]
  split
  · exact agree_null
  · refine (agree_colorOf _ _).bind fun base _ => (agree_colorOf _ _).bind fun target _ => ?_
    split
    · split
      · refine (agree_ofExcept _).bind fun amount _ => ?_
        split
        · refine Agree.ofExcept fun value hv => ?_
          obtain ⟨unit, -, hv⟩ := of_bind_eq_ok hv
          obtain ⟨alpha, -, hv⟩ := of_bind_eq_ok hv
          obtain ⟨red, -, hv⟩ := of_bind_eq_ok hv
          obtain ⟨green, -, hv⟩ := of_bind_eq_ok hv
          obtain ⟨blue, -, hv⟩ := of_bind_eq_ok hv
          obtain ⟨text, -, hv⟩ := of_bind_eq_ok hv
          cases hv
          trivial
        · exact agree_null
      · exact agree_null
    · exact agree_null

theorem agree_invert (reader : ColorReader) (args : List Value) :
    Agree AnyLogs Value.IsTextOrNull (invert reader args) (invert reader args) := by
  refine (agree_colorOf _ _).bind fun color _ => ?_
  split
  · exact agree_textOf _
  · exact agree_null

theorem agree_mapSvgColors (args : List Value) :
    Agree AnyLogs Value.IsTextOrNull (mapSvgColors args) (mapSvgColors args) := by
  rw [mapSvgColors.eq_def]
  split
  · split
    · exact (agree_event _ _).bind fun _ _ => agree_null
    · refine (agree_ofExcept _).bind fun picture _ => (agree_ofExcept _).bind fun sought _ => ?_
      dsimp only
      split
      · exact (agree_event _ _).bind fun _ _ => agree_null
      · exact (agree_ofExcept _).bind fun result _ => agree_text _
  · exact (agree_event _ _).bind fun _ _ => agree_null

end Function

theorem Builtin.agree_apply (function : Builtin) (args : List Value) :
    Step.Agree Function.AnyLogs Value.IsTextOrNull (function.apply args) (function.apply args) := by
  cases function with
  | url => exact Step.Agree.ofExcept fun _ => Function.url_result
  | toPx => exact Step.Agree.ofExcept fun _ => Function.toPx_result
  | toRem => exact Step.Agree.ofExcept fun _ => Function.toRem_result
  | opacify => exact Function.agree_opacify _ args
  | tint => exact Function.agree_tint _ args
  | invert => exact Function.agree_invert _ args
  | printf => exact Step.Agree.ofExcept fun _ => Function.printf_result
  | mapSvgColors => exact Function.agree_mapSvgColors args

end Retheme
