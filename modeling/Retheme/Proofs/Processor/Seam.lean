import Retheme.Proofs.Processor.Agree
import Retheme.Proofs.Sheet.Seam

/-!
# Sheets that are scanned in parts

Behind a whole sheet another one is scanned as if it stood alone: each marker of
the text put together is the twin of a marker of one of the parts. Scanning the
text does what scanning the parts one after the other does, and reports the
markers of the second part under other offsets.
-/

namespace Retheme

namespace Processor

variable {a b : Text} {marker : Sheet.Marker} {processor : Processor}

open Step (Agree)

-- ---------------------------------------------------------------------------
-- Twins across a seam
-- ---------------------------------------------------------------------------

theorem twins_left (h : Sheet.Whole a) (hm : marker ∈ Sheet.markers a) (b : Text) (theme : Theme) :
    Twins (a ++ b) a theme marker marker where
  site :=
    { expression := rfl
      theme := rfl
      declaredValue := h.declaredValue?_left hm b
      ruleName :=
        have hp := Sheet.stop_le_length hm
        h.ruleNameAt_left (hp.1.trans hp.2) b }
  context := h.contextAt_left hm b

theorem twins_right (h : Sheet.Between a) (hm : marker ∈ Sheet.markers b)
    (hb : '{' ∈ (Sheet.blankComments b).take marker.start) (theme : Theme) :
    Twins (a ++ b) b theme (marker.shift a.length) marker where
  site :=
    { expression := rfl
      theme := rfl
      declaredValue := Sheet.declaredValue?_right a b marker.start
      ruleName := h.ruleNameAt_right hb }
  context := h.contextAt_right hm hb

-- ---------------------------------------------------------------------------
-- Markers in two parts
-- ---------------------------------------------------------------------------

/-- Markers are scanned one after the other, and the overrides recorded are counted together. -/
theorem scanMarkers_append (source : Text) (theme : Theme) (front back : List Sheet.Marker) :
    scanMarkers source theme (front ++ back) = (do
      let first ← scanMarkers source theme front
      let second ← scanMarkers source theme back
      return first + second) := by
  induction front with
  | nil => simp only [List.nil_append, scanMarkers, pure_bind, Nat.zero_add, bind_pure]
  | cons marker front ih =>
    simp only [List.cons_append, scanMarkers, ih, bind_assoc, pure_bind, Nat.add_assoc]

theorem agree_scan_append (ha : Sheet.Whole a)
    (hb : ∀ marker ∈ Sheet.markers b, '{' ∈ (Sheet.blankComments b).take marker.start)
    (theme : Theme) :
    Agree (Like fun _ => True) (fun _ => True) (scan (a ++ b) theme) (do
      let first ← scan a theme
      let second ← scan b theme
      return first + second) := by
  have hs := Workspace.stable_true theme
  have hfront : List.Forall₂ (Twins (a ++ b) a theme) (Sheet.markers a) (Sheet.markers a) :=
    List.forall₂_same.mpr fun marker hm => twins_left ha hm b theme
  have hback : List.Forall₂ (Twins (a ++ b) b theme)
      ((Sheet.markers b).map (.shift a.length)) (Sheet.markers b) :=
    List.forall₂_map_left_iff.mpr
      (List.forall₂_same.mpr fun marker hm => twins_right ha.toBetween hm (hb marker hm) theme)
  rw [scan, ha.markers_append, scanMarkers_append]
  refine (agree_scanMarkers_of_twins hs hfront).bind fun _ _ => ?_
  exact (agree_scanMarkers_of_twins hs hback).bind fun _ _ => Agree.pure trivial

/-- A sheet may be split behind a block. From any processor without functions from outside, the
scan of the whole gives what the scans of the parts give together, and leaves the processor as they
do in everything but the reports: the overrides, the variables and the custom scopes. -/
theorem scan_append (ha : Sheet.Whole a)
    (hb : ∀ marker ∈ Sheet.markers b, '{' ∈ (Sheet.blankComments b).take marker.start)
    (hf : processor.functions.IsOwn) (theme : Theme) :
    let whole := Step.run (scan (a ++ b) theme) processor
    let parts := Step.run (do
      let first ← scan a theme
      let second ← scan b theme
      return first + second) processor
    whole.1 = parts.1 ∧ parts.2 = whole.2.logged parts.2.work.log := by
  obtain ⟨hr, ⟨-, -, log, hl⟩, -⟩ :=
    agree_scan_append ha hb theme processor processor (.refl hf trivial)
  refine ⟨hr, ?_⟩
  rw [hl]
  rfl

def firstSheet : Text := ".a, .b \x7b /*![setRuleScope(.a)]*/ x: y; \x7d"

def secondSheet : Text := ".a, .b \x7b /*![demo.fg]*/ color: black; \x7d"

theorem markers_firstSheet : Sheet.markers firstSheet = [⟨"setRuleScope(.a)".toList, 9, 32⟩] := by
  cbv

theorem firstSheet_whole : Sheet.Whole firstSheet where
  closed := by
    rw [Sheet.IsClosed]
    decide +kernel
  endsBlock := by
    have hb : (Sheet.blankComments firstSheet).getLast? = some '}' := by decide +kernel
    intro c hc
    rw [hb] at hc
    exact (Option.some.inj hc).symm
  terminated := by
    refine Sheet.terminated_of_drop (markers_firstSheet ▸ List.mem_singleton_self _) ?_
    decide
  valued := by
    intro marker hm before after he hc
    rw [markers_firstSheet, List.mem_singleton] at hm
    obtain rfl := hm
    have hcut : Text.cut? [':'] (firstSheet.drop 32) =
        some (" x".toList, " y; \x7d".toList) := by decide
    have hfound := Text.cut?_of_not_mem hc [] after
    rw [List.append_assoc, List.singleton_append, ← he, hcut] at hfound
    cases hfound
    exact ⟨" y", ';', " \x7d", rfl, by decide, by decide, .inl rfl⟩

theorem scan_append_sheets :
    Sheet.Whole firstSheet ∧
      (∀ marker ∈ Sheet.markers secondSheet,
        '{' ∈ (Sheet.blankComments secondSheet).take marker.start) ∧
      Registry.initial.IsOwn ∧
      let theme : Theme := ⟨"demo", "dark", [("fg".toList, .text "red")], none⟩
      let whole := Step.run (scan (firstSheet ++ secondSheet) theme) (initial "demo" [])
      let parts := Step.run (do
        let first ← scan firstSheet theme
        let second ← scan secondSheet theme
        return first + second) (initial "demo" [])
      whole.1 = parts.1 ∧ parts.2 = whole.2.logged parts.2.work.log := by
  have hb : ∀ marker ∈ Sheet.markers secondSheet,
      '{' ∈ (Sheet.blankComments secondSheet).take marker.start := by
    have hm : Sheet.markers secondSheet = [⟨"demo.fg".toList, 9, 23⟩] := by cbv
    intro marker hmem
    rw [hm, List.mem_singleton] at hmem
    rw [hmem]
    decide +kernel
  exact ⟨firstSheet_whole, hb, Registry.initial_isOwn,
    scan_append firstSheet_whole hb Registry.initial_isOwn _⟩

end Processor

end Retheme
