import Retheme.Function.Paint
import Retheme.Proofs.Color.Functional
import Retheme.Proofs.Number.UnitText

/-!
# Inverted colours

The inversion of a colour has the channels that complete those of the colour to
255 and the alpha of the colour. Its text is read as a colour again unless the
alpha is written with an exponent, between zero and a ten-thousandth, and then
inverting it once more restores the text of the colour. This holds for every
reader of colours with the usual grammar.
-/

namespace Retheme.Function

open Color (InRange Grammar functional)

variable {reader : ColorReader} {value : Value} {color : Color} {text : Text} {alpha : ℚ}

-- ---------------------------------------------------------------------------
-- Reading values
-- ---------------------------------------------------------------------------

/-- A value is read as a colour, without a report. -/
def Reads (reader : ColorReader) (value : Value) (color : Color) : Prop :=
  ∀ log, Step.run (colorOf reader value) log = (.ok (some color), log)

theorem Reads.unique {other : Color} (h : Reads reader value color)
    (h' : Reads reader value other) : color = other := by
  cases (h []).symm.trans (h' [])
  rfl

theorem colorOf_eq (hv : value ≠ .null) :
    colorOf reader value = (do
      let text := (← Step.ofExcept value.shown).strip
      if text.isEmpty then return none
      match ← Step.ofExcept (reader text) with
      | some color => return some color
      | none =>
        Report.event (.notAColor text)
        return none) := by
  cases value with
  | null => exact absurd rfl hv
  | _ => rfl

theorem run_colorOf {shown : Text} (hv : value ≠ .null) (hs : value.shown = .ok shown)
    (log : List Event) :
    Step.run (colorOf reader value) log =
      if shown.strip.isEmpty then (.ok none, log)
      else match reader shown.strip with
        | .ok (some color) => (.ok (some color), log)
        | .ok none => (.ok none, log ++ [.notAColor shown.strip])
        | .error failure => (.error failure, log) := by
  rw [colorOf_eq hv, hs, Step.run_bind, Step.run_ofExcept]
  simp only
  split
  · rfl
  · rw [Step.run_bind, Step.run_ofExcept]
    rcases reader shown.strip with failure | _ | color <;> rfl

theorem of_reads (h : Reads reader value color) : ∃ text, reader text = .ok (some color) := by
  replace h := h []
  have hv : value ≠ .null := by
    rintro rfl
    cases congrArg Prod.fst h
  cases hs : value.shown with
  | error failure =>
    rw [colorOf_eq hv, hs, Step.run_bind, Step.run_ofExcept] at h
    cases congrArg Prod.fst h
  | ok shown =>
    refine ⟨shown.strip, ?_⟩
    rw [run_colorOf hv hs] at h
    split at h
    · cases congrArg Prod.fst h
    · split at h <;> cases congrArg Prod.fst h
      assumption

-- ---------------------------------------------------------------------------
-- Texts in functional notation
-- ---------------------------------------------------------------------------

theorem strip_functional (red green blue : Nat) (alpha : Text) :
    (functional red green blue alpha).strip = functional red green blue alpha := by
  refine Text.trim_eq_self ?_ ?_
  · rintro c ⟨⟩
    decide
  · intro c hc
    have hlast : functional red green blue alpha = (("rgba(" : Text) ++ (Integer.digits red ++ ", " ++
        Integer.digits green ++ ", " ++ Integer.digits blue ++ ", " ++ alpha)) ++ [')'] := by
      simp [functional]
    rw [hlast, List.getLast?_concat] at hc
    cases hc
    decide

theorem reads_functional {red green blue : Nat} {alpha : Text}
    (h : reader (functional red green blue alpha) = .ok (some color)) :
    Reads reader (.text (functional red green blue alpha)) color := by
  have hv : Value.text (functional red green blue alpha) ≠ .null := nofun
  intro log
  rw [run_colorOf hv rfl, strip_functional, h, if_neg (by simp [functional])]

theorem run_colorOf_functional {red green blue : Nat} {alpha : Text}
    (h : reader (functional red green blue alpha) = .ok none) (log : List Event) :
    Step.run (colorOf reader (.text (functional red green blue alpha))) log =
      (.ok none, log ++ [.notAColor (functional red green blue alpha)]) := by
  have hv : Value.text (functional red green blue alpha) ≠ .null := nofun
  rw [run_colorOf hv rfl, strip_functional, h, if_neg (by simp [functional])]

theorem rgbaText_natCast {red green blue : Nat} {number : Number} (h : number.text = .ok text) :
    Color.rgbaText red green blue number = .ok (functional red green blue text) := by
  have hdigits : ∀ n : Nat, Integer.text n = Integer.digits n := fun n => by
    rw [Integer.text, if_neg (by omega), Int.natAbs_natCast]
  simp only [Color.rgbaText, h, hdigits, functional, bind, Except.bind, pure, Except.pure,
    List.append_assoc]

-- ---------------------------------------------------------------------------
-- Inversion
-- ---------------------------------------------------------------------------

theorem run_invert (h : Reads reader value color) (log : List Event) :
    Step.run (invert reader [value]) log =
      ((Color.rgbaText (255 - color.red) (255 - color.green) (255 - color.blue) color.alpha).map
        .text, log) := by
  rw [invert, Step.run_bind]
  simp only [argument, List.getD_cons_zero, h log]
  rw [Step.run_bind, Step.run_ofExcept]
  cases Color.rgbaText (255 - color.red) (255 - color.green) (255 - color.blue) color.alpha <;> rfl

theorem run_invert_of_none {log after : List Event}
    (h : Step.run (colorOf reader value) log = (.ok none, after)) :
    Step.run (invert reader [value]) log = (.ok .null, after) := by
  rw [invert, Step.run_bind]
  simp only [argument, List.getD_cons_zero, h]
  rfl

theorem run_invert_functional (h : Reads reader value color) (hr : InRange color alpha)
    (ht : color.alpha.text = .ok text) (log : List Event) :
    Step.run (invert reader [value]) log =
      (.ok (.text (functional (255 - color.red) (255 - color.green) (255 - color.blue) text)),
        log) := by
  have hcast : ∀ {n : Nat}, n ≤ 255 → (255 - n : Int) = ((255 - n : Nat) : Int) :=
    fun hn => by omega
  rw [run_invert h, hcast hr.red_le, hcast hr.green_le, hcast hr.blue_le, rgbaText_natCast ht]
  rfl

structure IsInverse (color inverse : Color) : Prop where
  red : inverse.red + color.red = 255
  green : inverse.green + color.green = 255
  blue : inverse.blue + color.blue = 255
  alpha : inverse.alpha.toRat? = color.alpha.toRat?

/-- The inversion of a colour is read as the inverse colour exactly when the alpha is zero or at
least a ten-thousandth, and then inverting it restores the colour; otherwise the inversion is
reported as no colour and has no inversion. -/
theorem invert_reads_again (hg : Grammar reader) (h : Reads reader value color) :
    ∃ inverted alpha, color.alpha.toRat? = some alpha ∧
      (∀ log, Step.run (invert reader [value]) log = (.ok (.text inverted), log)) ∧
      ((∃ again, Reads reader (.text inverted) again) ↔ alpha = 0 ∨ 1 / 10000 ≤ alpha) ∧
      (∀ again, Reads reader (.text inverted) again →
        IsInverse color again ∧
          ∃ restored, Color.rgbaText color.red color.green color.blue color.alpha = .ok restored ∧
            ∀ log, Step.run (invert reader [.text inverted]) log = (.ok (.text restored), log)) ∧
      ((∀ again, ¬ Reads reader (.text inverted) again) →
        ∀ log, Step.run (invert reader [.text inverted]) log =
          (.ok .null, log ++ [.notAColor inverted])) := by
  obtain ⟨text, hread⟩ := of_reads h
  obtain ⟨alpha, hr⟩ := hg.inRange hread
  obtain ⟨numeral, ht, hn, hw, hf, hv, he⟩ := Number.exists_numeral hr.alpha_eq hr.nonneg hr.le_one
  have hred := Nat.sub_le 255 color.red
  have hgreen := Nat.sub_le 255 color.green
  have hblue := Nat.sub_le 255 color.blue
  refine ⟨_, alpha, hr.alpha_eq, run_invert_functional h hr ht, ?_⟩
  by_cases hexp : numeral.exponent = none
  · have hreads := reads_functional (hg.plain hred hgreen hblue hw hf hn hexp)
    refine ⟨iff_of_true ⟨_, hreads⟩ (he.mp hexp), ?_, fun hnone => absurd hreads (hnone _)⟩
    intro again hra
    obtain rfl := hra.unique hreads
    have hclamp : Color.clampFloat numeral.value = numeral.value :=
      Color.clampFloat_of_unit hv hr.nonneg hr.le_one
    have halpha : (Number.float (Color.clampFloat numeral.value)).toRat? = some alpha := by
      rw [hclamp]
      exact hv
    have hr' : InRange ⟨255 - color.red, 255 - color.green, 255 - color.blue,
        .float (Color.clampFloat numeral.value)⟩ alpha :=
      ⟨hred, hgreen, hblue, halpha, hr.nonneg, hr.le_one⟩
    have ht' := (Number.text_congr halpha hr.alpha_eq hr.nonneg hr.le_one).trans ht
    refine ⟨⟨Nat.sub_add_cancel hr.red_le, Nat.sub_add_cancel hr.green_le,
      Nat.sub_add_cancel hr.blue_le, halpha.trans hr.alpha_eq.symm⟩, _, rgbaText_natCast ht,
      fun log => ?_⟩
    rw [run_invert_functional hreads hr' ht', Nat.sub_sub_self hr.red_le,
      Nat.sub_sub_self hr.green_le, Nat.sub_sub_self hr.blue_le]
  · have hrun := run_colorOf_functional (hg.exponent hred hgreen hblue hw hf hn hexp)
    have hnone : ∀ again, ¬ Reads reader (.text (functional (255 - color.red)
        (255 - color.green) (255 - color.blue) numeral.magnitude)) again := by
      intro again hra
      cases (hra []).symm.trans (hrun [])
    exact ⟨iff_of_false (fun ⟨again, hra⟩ => hnone again hra) (mt he.mpr hexp),
      fun again hra => absurd hra (hnone again),
      fun _ log => run_invert_of_none (hrun log)⟩

theorem reads_transparent :
    Reads Color.read? (.text "transparent") (Color.ofNumber 0 (.int 0)) := fun _ => rfl

theorem run_invert_transparent :
    Step.run (invert Color.read? [.text "transparent"]) [] =
      (.ok (.text "rgba(255, 255, 255, 0)"), []) := by
  have htext : Color.rgbaText 255 255 255 (.int 0) = .ok "rgba(255, 255, 255, 0)" := by
    decide +kernel
  rw [run_invert reads_transparent]
  exact congrArg (fun text : Except Failure Text => (text.map Value.text, ([] : List Event))) htext

theorem invert_reads_again_transparent :
    (∃ again, Reads Color.read? (.text "rgba(255, 255, 255, 0)") again) ∧
      Step.run (invert Color.read? [.text "rgba(255, 255, 255, 0)"]) [] =
        (.ok (.text "rgba(0, 0, 0, 0)"), []) := by
  obtain ⟨inverted, alpha, ha, hinverted, hiff, hagain, -⟩ :=
    invert_reads_again Color.grammar_read? reads_transparent
  obtain rfl : inverted = "rgba(255, 255, 255, 0)" := by
    cases (hinverted []).symm.trans run_invert_transparent
    rfl
  obtain rfl : 0 = alpha := by simpa [Color.ofNumber, Number.toRat?] using ha
  obtain ⟨again, hreads⟩ := hiff.mpr (.inl rfl)
  obtain ⟨-, restored, hrestored, hrun⟩ := hagain again hreads
  have htext : Color.rgbaText 0 0 0 (.int 0) = .ok "rgba(0, 0, 0, 0)" := by decide +kernel
  obtain rfl : "rgba(0, 0, 0, 0)".toList = restored := Except.ok.inj (htext.symm.trans hrestored)
  exact ⟨⟨again, hreads⟩, hrun []⟩

-- ---------------------------------------------------------------------------
-- A faint colour
-- ---------------------------------------------------------------------------

def faint : Text := "rgba(1, 2, 3, 0.00001)"

def faintNumeral : Decimal.Numeral := ⟨false, ['0'], ['0', '0', '0', '0', '1'], none⟩

def faintColor : Color := ⟨1, 2, 3, .float (Color.clampFloat faintNumeral.value)⟩

def faintInverted : Text := "rgba(254, 253, 252, 1e-05)"

def faintInvertedNumeral : Decimal.Numeral := ⟨false, ['1'], [], some (true, ['0', '5'])⟩

theorem functional_faint : functional 1 2 3 faintNumeral.magnitude = faint ∧
    functional 254 253 252 faintInvertedNumeral.magnitude = faintInverted := by decide +kernel

theorem reads_faint : Reads Color.read? (.text faint) faintColor := by
  have hread : Color.read? (functional 1 2 3 faintNumeral.magnitude) = .ok (some faintColor) :=
    Color.read?_functional Integer.isWhole_zero (List.all_eq_true.mp rfl) rfl (by decide)
      (by decide) (by decide)
  rw [← functional_faint.1]
  exact reads_functional hread

theorem run_colorOf_faintInverted (log : List Event) :
    Step.run (colorOf Color.read? (.text faintInverted)) log =
      (.ok none, log ++ [.notAColor faintInverted]) := by
  have hwhole : Integer.IsWhole faintInvertedNumeral.whole :=
    ⟨List.all_eq_true.mp rfl, by decide, by decide⟩
  have hread : Color.read? (functional 254 253 252 faintInvertedNumeral.magnitude) = .ok none :=
    Color.read?_functional hwhole nofun rfl (by decide) (by decide) (by decide)
  rw [← functional_faint.2]
  exact run_colorOf_functional hread log

theorem text_faint : faintColor.alpha.text = .ok faintInvertedNumeral.magnitude := by
  decide +kernel

/-- The inversion of a faint colour is no colour: its alpha is written with an exponent. -/
theorem not_reads_inverted_faint :
    Reads Color.read? (.text faint) faintColor ∧
      Step.run (invert Color.read? [.text faint]) [] = (.ok (.text faintInverted), []) ∧
      (∀ again, ¬ Reads Color.read? (.text faintInverted) again) ∧
      Step.run (invert Color.read? [.text faintInverted]) [] =
        (.ok .null, [.notAColor faintInverted]) := by
  refine ⟨reads_faint, ?_, ?_, run_invert_of_none (run_colorOf_faintInverted [])⟩
  · have htext : Color.rgbaText (254 : Nat) (253 : Nat) (252 : Nat) faintColor.alpha =
        .ok (functional 254 253 252 faintInvertedNumeral.magnitude) := rgbaText_natCast text_faint
    rw [run_invert reads_faint, ← functional_faint.2]
    exact congrArg (fun text : Except Failure Text => (text.map Value.text, ([] : List Event))) htext
  · intro again hra
    cases (hra []).symm.trans (run_colorOf_faintInverted [])

end Retheme.Function
