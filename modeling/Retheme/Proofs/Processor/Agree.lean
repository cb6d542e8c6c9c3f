import Mathlib.Data.List.Forall2
import Retheme.Processor
import Retheme.Proofs.Expression.Outcome
import Retheme.Proofs.Processor.Scan

/-!
# Markers that are scanned alike

What a marker does to a processor depends on its site and on the declaration
behind it, and not on what was reported before. Two lists of markers that agree
in both, one by one, are scanned alike, and scanning keeps what evaluation
keeps.
-/

namespace Retheme.Processor

open Step (Agree)
open Workspace (Stable)

variable {theme : Theme} {inv : Workspace → Prop} {post : Value → Prop} {source other : Text}
  {rel : Processor → Processor → Prop} {marker twin : Sheet.Marker}
  {markers twins : List Sheet.Marker} {processor : Processor}

/-- The second processor is the first one but for the reports. No function comes from outside, and
the workspace has a property. -/
def Like (inv : Workspace → Prop) (processor other : Processor) : Prop :=
  processor.functions.IsOwn ∧ inv processor.work ∧ ∃ log, other = processor.logged log

theorem Like.refl (hf : processor.functions.IsOwn) (hi : inv processor.work) :
    Like inv processor processor :=
  ⟨hf, hi, processor.work.log, rfl⟩

def siteOf (source : Text) (theme : Theme) (marker : Sheet.Marker) : Site :=
  ⟨marker.expression, theme, source, marker.start⟩

structure Twins (source other : Text) (theme : Theme) (marker twin : Sheet.Marker) : Prop where
  site : (siteOf source theme marker).Alike (siteOf other theme twin)
  context : Sheet.contextAt source marker.start = Sheet.contextAt other twin.start

theorem Twins.refl (source : Text) (theme : Theme) (marker : Sheet.Marker) :
    Twins source source theme marker marker :=
  ⟨.refl _, rfl⟩

/-- Related processors have the same hooks and custom scopes, whatever they report, and record the
same overrides. -/
structure Indifferent (rel : Processor → Processor → Prop) : Prop where
  hooks : ∀ processor other, rel processor other → processor.hooks = other.hooks
  scopes : ∀ processor other, rel processor other → processor.work.scopes = other.work.scopes
  report : ∀ processor other log last, rel processor other →
    rel (processor.logged log) (other.logged last)
  record : ∀ processor other override, rel processor other →
    rel (processor.recorded override) (other.recorded override)

theorem Indifferent.agree_event (h : Indifferent rel) (report other : Event) :
    Agree rel (fun _ => True) (event report) (event other) :=
  fun processor other hr => ⟨rfl, h.report processor other _ _ hr, fun _ _ => trivial⟩

theorem indifferent_like (h : Stable theme inv post) : Indifferent (Like inv) where
  hooks := by
    rintro processor other ⟨-, -, log, rfl⟩
    rfl
  scopes := by
    rintro processor other ⟨-, -, log, rfl⟩
    rfl
  report := by
    rintro processor other log last ⟨hf, hi, log', rfl⟩
    exact ⟨hf, h.report _ _ hi, last, rfl⟩
  record := by
    rintro processor other override ⟨hf, hi, log, rfl⟩
    exact ⟨hf, hi, log, rfl⟩

theorem agree_onWork {α : Type} {goal : α → Prop} {step next : Step Workspace α}
    (h : Agree (Workspace.Like inv) goal step next) :
    Agree (Like inv) goal (onWork step) (onWork next) := by
  refine h.within ?_ ?_
  · rintro processor other ⟨-, hi, log, rfl⟩
    exact ⟨hi, log, rfl⟩
  · rintro processor other work next ⟨hf, -, log, rfl⟩ ⟨hi, log', rfl⟩
    exact ⟨hf, hi, log', rfl⟩

-- ---------------------------------------------------------------------------
-- One marker
-- ---------------------------------------------------------------------------

theorem agree_evaluate (h : Stable theme inv post) {expression expression' : Text}
    {position position' : Int}
    (hs : Site.Alike ⟨expression, theme, source, position⟩ ⟨expression', theme, other, position'⟩) :
    Agree (Like inv) (fun _ => True) (evaluate expression theme source position)
      (evaluate expression' theme other position') := by
  have hread : Agree (Like inv) Registry.IsOwn (Step.read Processor.functions)
      (Step.read Processor.functions) := by
    refine Agree.read ?_
    rintro processor other ⟨hf, -, log, rfl⟩
    exact ⟨rfl, hf⟩
  refine hread.bind fun functions hf => agree_onWork ?_
  rw [Expression.evaluate_eq, Expression.evaluate_eq]
  exact (Expression.agree_lead_of_isOwn h hs hf).bind fun _ _ => Workspace.agree_ofExcept _

theorem agree_runHooks (h : Indifferent rel) (hooks : List Hook) (override : Override) :
    Agree rel (fun _ => True) (runHooks theme override hooks)
      (runHooks theme override hooks) := by
  induction hooks generalizing override with
  | nil => exact Agree.pure trivial
  | cons hook hooks ih =>
    rw [runHooks.eq_def]
    dsimp only
    split
    · exact ih _
    · exact ih _
    · exact (h.agree_event _ _).bind fun _ _ => ih _

theorem agree_scanMarker (h : Indifferent rel)
    (he : Agree rel (fun _ => True) (evaluate marker.expression theme source marker.start)
      (evaluate twin.expression theme other twin.start))
    (hk : marker.key = twin.key)
    (hc : Sheet.contextAt source marker.start = Sheet.contextAt other twin.start) :
    Agree rel (fun _ => True) (scanMarker source theme marker)
      (scanMarker other theme twin) := by
  rw [scanMarker, scanMarker, ← hc, ← hk]
  refine he.bind fun result _ => ?_
  split
  · exact Agree.pure trivial
  · next value =>
    dsimp only
    split
    · exact (h.agree_event _ _).bind fun _ _ => Agree.pure trivial
    · have hrule : Agree rel (fun _ => True)
          (Step.read fun processor : Processor => processor.work.scopes.scope
            (Sheet.contextAt source marker.start).rule theme.name)
          (Step.read fun processor : Processor => processor.work.scopes.scope
            (Sheet.contextAt source marker.start).rule theme.name) :=
        Agree.read fun processor other hr => ⟨by rw [h.scopes processor other hr], trivial⟩
      have hhooks : Agree rel (fun _ => True) (Step.read Processor.hooks)
          (Step.read Processor.hooks) :=
        Agree.read fun processor other hr => ⟨h.hooks processor other hr, trivial⟩
      refine hrule.bind fun rule _ => hhooks.bind fun hooks _ => ?_
      refine (agree_runHooks h hooks _).bind fun override _ => ?_
      exact (Agree.update fun processor other hr => h.record processor other override hr).bind
        fun _ _ => Agree.pure trivial

theorem agree_scanMarker_of_twins (h : Stable theme inv post)
    (ht : Twins source other theme marker twin) :
    Agree (Like inv) (fun _ => True) (scanMarker source theme marker)
      (scanMarker other theme twin) := by
  have he : marker.expression = twin.expression := ht.site.expression
  exact agree_scanMarker (indifferent_like h) (agree_evaluate h ht.site)
    (congrArg (Text.lastPiece '.') he) ht.context

-- ---------------------------------------------------------------------------
-- All markers
-- ---------------------------------------------------------------------------

theorem agree_scanMarkers {last : Theme}
    (h : List.Forall₂ (fun marker twin => Agree rel (fun _ => True)
      (scanMarker source theme marker) (scanMarker other last twin)) markers twins) :
    Agree rel (fun _ => True) (scanMarkers source theme markers)
      (scanMarkers other last twins) := by
  induction h with
  | nil => exact Agree.pure trivial
  | cons hm _ ih => exact hm.bind fun _ _ => ih.bind fun _ _ => Agree.pure trivial

theorem agree_scanMarkers_of_twins (h : Stable theme inv post)
    (ht : List.Forall₂ (Twins source other theme) markers twins) :
    Agree (Like inv) (fun _ => True) (scanMarkers source theme markers)
      (scanMarkers other theme twins) :=
  agree_scanMarkers (ht.imp fun _ _ => agree_scanMarker_of_twins h)

theorem agree_scan (h : Stable theme inv post) (source : Text) :
    Agree (Like inv) (fun _ => True) (scan source theme) (scan source theme) :=
  agree_scanMarkers_of_twins h
    (List.forall₂_same.mpr fun marker _ => Twins.refl source theme marker)

end Retheme.Processor
