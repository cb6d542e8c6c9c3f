import Retheme.Proofs.Processor.Addition

/-!
# What adding themes does not see, and what it keeps

Reports play no part in what a processor does, whatever hooks and functions from
outside it has, and a style sheet that cannot be fetched or has no text does
nothing but report. So it is as if it were not listed (`addAll_readable`). A
property of processors that no evaluation, no new override and no note that a
theme was scanned breaks is kept whatever themes are added, whether this fails
or not.
-/

namespace Retheme

def Sheet.isReadable (sheet : Sheet) : Bool := !sheet.scanned.isEmpty

namespace Processor

open Step (Agree)

variable {inv : Processor → Prop} {rel : Processor → Processor → Prop} {theme : Theme}
  {source : Text} {markers : List Sheet.Marker} {sheets : List Sheet} {processor : Processor}
  {addition : Addition}

/-- A property of processors that nothing breaks that is done while a theme is added. -/
structure Kept (inv : Processor → Prop) : Prop where
  work : ∀ processor work, inv processor → inv { processor with work }
  record : ∀ processor override, inv processor → inv (processor.recorded override)
  scanned : ∀ processor name, inv processor →
    inv { processor with scanned := processor.scanned ++ [name] }

/-- The second processor is the first one but for its reports, and the first one has a property. -/
def Relogged (inv : Processor → Prop) (processor other : Processor) : Prop :=
  inv processor ∧ ∃ log, other = processor.logged log

theorem Relogged.refl (h : inv processor) : Relogged inv processor processor :=
  ⟨h, processor.work.log, rfl⟩

theorem kept_true : Kept fun _ => True where
  work _ _ _ := trivial
  record _ _ _ := trivial
  scanned _ _ _ := trivial

theorem Kept.indifferent (h : Kept inv) : Indifferent (Relogged inv) where
  hooks := by
    rintro processor _ ⟨-, log, rfl⟩
    rfl
  scopes := by
    rintro processor _ ⟨-, log, rfl⟩
    rfl
  report := by
    rintro processor _ log last ⟨hi, _, rfl⟩
    exact ⟨h.work _ _ hi, last, rfl⟩
  record := by
    rintro processor _ override ⟨hi, log, rfl⟩
    exact ⟨h.record _ _ hi, log, rfl⟩

theorem agree_read_relogged {α : Type} {f : Processor → α}
    (hf : ∀ processor log, f (logged processor log) = f processor) :
    Agree (Relogged inv) (fun _ => True) (Step.read f) (Step.read f) := by
  refine Agree.read ?_
  rintro processor _ ⟨-, log, rfl⟩
  exact ⟨(hf processor log).symm, trivial⟩

-- ---------------------------------------------------------------------------
-- Scanning
-- ---------------------------------------------------------------------------

theorem Kept.agree_evaluate (h : Kept inv) (expression : Text) (theme : Theme) (source : Text)
    (position : Int) :
    Agree (Relogged inv) (fun _ => True) (evaluate expression theme source position)
      (evaluate expression theme source position) := by
  refine (agree_read_relogged fun _ _ => rfl).bind fun functions _ => ?_
  have hlead := Expression.agree_lead (Workspace.stable_true theme).indifferent
    (.refl ⟨expression, theme, source, position⟩) (Expression.congruent_self functions _)
  rw [Expression.evaluate_eq]
  refine (hlead.bind fun _ _ => Workspace.agree_ofExcept _).within ?_ ?_
  · rintro processor _ ⟨-, log, rfl⟩
    exact ⟨trivial, log, rfl⟩
  · rintro processor _ work _ ⟨hi, log, rfl⟩ ⟨-, last, rfl⟩
    exact ⟨h.work _ _ hi, last, rfl⟩

theorem Kept.agree_scan (h : Kept inv) (source : Text) (theme : Theme) :
    Agree (Relogged inv) (fun _ => True) (scan source theme) (scan source theme) := by
  refine agree_scanMarkers (List.forall₂_same.mpr fun marker _ => ?_)
  exact agree_scanMarker h.indifferent (h.agree_evaluate _ _ _ _) rfl rfl

theorem Indifferent.agree_fetch (h : Indifferent rel) (sheet : Sheet) :
    Agree rel (fun text => text = sheet.scanned) (fetch sheet) (fetch sheet) := by
  intro processor other hr
  obtain ⟨first, hf⟩ := exists_run_fetch sheet processor
  obtain ⟨last, hl⟩ := exists_run_fetch sheet other
  rw [hf, hl]
  exact ⟨rfl, h.report _ _ _ _ hr, fun _ ht => (Except.ok.inj ht).symm⟩

theorem Kept.agree_fetch_pure (h : Kept inv) {sheet : Sheet} (hs : sheet.isReadable = false) :
    Agree (Relogged inv) (fun text => text = []) (fetch sheet) (pure []) := by
  have ht : sheet.scanned = [] := by simpa [Sheet.isReadable] using hs
  rintro processor _ ⟨hi, log, rfl⟩
  obtain ⟨first, hf⟩ := exists_run_fetch sheet processor
  rw [hf, ht]
  exact ⟨rfl, ⟨h.work _ _ hi, log, rfl⟩, fun _ ht => (Except.ok.inj ht).symm⟩

theorem Kept.agree_scanSheets (h : Kept inv) (theme : Theme) (sheets : List Sheet) :
    Agree (Relogged inv) (fun _ => True) (scanSheets theme sheets)
      (scanSheets theme (sheets.filter Sheet.isReadable)) := by
  induction sheets with
  | nil => exact Agree.pure trivial
  | cons sheet sheets ih =>
    cases hs : sheet.isReadable with
    | true =>
      rw [List.filter_cons_of_pos hs, scanSheets_cons, scanSheets_cons]
      refine (h.indifferent.agree_fetch sheet).bind fun text _ => ?_
      exact (h.agree_scan text theme).bind fun _ _ => ih.bind fun _ _ => Agree.pure trivial
    | false =>
      -- Both scan a text without markers, which one of them has from the sheet.
      have hskip : scanSheets theme (sheets.filter Sheet.isReadable) = (do
          let text ← pure []
          let recorded ← scan text theme
          let more ← scanSheets theme (sheets.filter Sheet.isReadable)
          return recorded + more) := by
        simp only [pure_bind, scan_nil, Nat.zero_add, bind_pure]
      rw [List.filter_cons_of_neg (by simp [hs]), hskip, scanSheets_cons]
      refine (h.agree_fetch_pure hs).bind fun text _ => ?_
      exact (h.agree_scan text theme).bind fun _ _ => ih.bind fun _ _ => Agree.pure trivial

-- ---------------------------------------------------------------------------
-- Adding themes
-- ---------------------------------------------------------------------------

theorem Kept.agree_scanOnce (h : Kept inv) (theme : Theme) (sheets : List Sheet) :
    Agree (Relogged inv) (fun _ => True) (scanOnce sheets theme)
      (scanOnce (sheets.filter Sheet.isReadable) theme) := by
  have hevent (report : Event) :
      Agree (Relogged inv) (fun _ => True) (event report) (event report) :=
    h.indifferent.agree_event report report
  refine (agree_read_relogged fun _ _ => rfl).bind fun ns _ => ?_
  -- Whether the theme was scanned is read from the whole processor, reports included.
  rintro processor _ ⟨hi, log, rfl⟩
  have hknown :
      (processor.logged log).hasScanned theme.name = processor.hasScanned theme.name := rfl
  simp only [Step.run_bind, Step.run_read, id_eq, hknown]
  cases processor.hasScanned theme.name with
  | true => exact hevent _ processor _ ⟨hi, log, rfl⟩
  | false =>
    refine (h.agree_scanSheets theme sheets).bind (fun recorded _ => ?_) processor _ ⟨hi, log, rfl⟩
    refine (Agree.update ?_).bind fun _ _ => hevent _
    rintro processor _ ⟨hi, log, rfl⟩
    exact ⟨h.scanned processor theme.name hi, log, rfl⟩

theorem Kept.agree_addTheme (h : Kept inv) (theme : Theme) (sheets : List Sheet) :
    Agree (Relogged inv) (fun _ => True) (addTheme sheets theme)
      (addTheme (sheets.filter Sheet.isReadable) theme) := by
  have hpublish : Agree (Relogged inv) (fun _ => True) (publish theme) (publish theme) := by
    rintro processor _ ⟨hi, log, rfl⟩
    rw [run_publish, run_publish]
    exact ⟨rfl, ⟨hi, log, rfl⟩, fun _ _ => trivial⟩
  rw [addTheme_eq, addTheme_eq]
  exact (h.agree_scanOnce theme sheets).bind fun _ _ => hpublish

theorem Kept.add (h : Kept inv) (hi : inv processor) (addition : Addition) :
    inv (processor.add addition) := by
  obtain ⟨-, ⟨hk, -⟩, -⟩ :=
    h.agree_addTheme addition.theme addition.sheets processor processor (.refl hi)
  exact hk

theorem Kept.addAll (h : Kept inv) (hi : inv processor) (additions : List Addition) :
    inv (processor.addAll additions) := by
  induction additions generalizing processor with
  | nil => exact hi
  | cons addition additions ih => exact ih (h.add hi addition)

def Addition.readable (addition : Addition) : Addition :=
  { addition with sheets := addition.sheets.filter Sheet.isReadable }

/-- Sheets that cannot be fetched or have no text are as if they were not listed. After any themes
that are added, the processor is what it is without these sheets in everything but its reports, and
every addition has the same outcome: it publishes the same style block or none, or fails alike. -/
theorem addAll_readable (processor : Processor) (additions : List Addition) :
    (∃ log, processor.addAll (additions.map Addition.readable) =
        (processor.addAll additions).logged log) ∧
      processor.outcomes (additions.map Addition.readable) = processor.outcomes additions := by
  suffices h : ∀ other, (∃ log, other = processor.logged log) →
      (∃ log, other.addAll (additions.map Addition.readable) =
          (processor.addAll additions).logged log) ∧
        other.outcomes (additions.map Addition.readable) = processor.outcomes additions from
    h processor ⟨processor.work.log, rfl⟩
  induction additions generalizing processor with
  | nil => exact fun other hr => ⟨hr, rfl⟩
  | cons addition additions ih =>
    intro other hr
    obtain ⟨hsame, ⟨-, hafter⟩, -⟩ := kept_true.agree_addTheme addition.theme addition.sheets
      processor other ⟨trivial, hr⟩
    obtain ⟨hstate, houtcomes⟩ := ih (processor.add addition) _ hafter
    exact ⟨hstate, congrArg₂ List.cons hsame.symm houtcomes⟩

end Processor

end Retheme
