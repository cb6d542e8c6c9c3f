import Retheme.Proofs.Text.Cut
import Retheme.Sheet.Marker

/-!
# Markers of texts that are put together

Text without slashes is passed over, and a marker without a closing square
bracket in its expression is found as a whole. When no marker is left open in a
text, those of what follows are found as if it stood alone.
-/

namespace Retheme.Sheet

variable {a b expression : Text}

theorem markersFrom_nil (offset : Nat) : markersFrom offset [] = [] := by
  rw [markersFrom]
  rfl

theorem markersFrom_of_cut? {offset : Nat} {text before body inner after : Text}
    (ho : Text.cut? markerOpen text = some (before, body))
    (hc : Text.cut? markerClose body = some (inner, after)) :
    markersFrom offset text =
      ⟨inner.strip, offset + before.length,
        offset + before.length + (markerOpen ++ inner ++ markerClose).length⟩ ::
      markersFrom (offset + before.length + (markerOpen ++ inner ++ markerClose).length) after := by
  rw [markersFrom]
  split
  · next h => rw [ho] at h; cases h
  · next h =>
    rw [ho] at h
    cases h
    split
    · next h => rw [hc] at h; cases h
    · next h =>
      rw [hc] at h
      cases h
      simp only [List.length_append, Nat.add_assoc]

theorem markersFrom_eq_nil {text : Text}
    (h : (Text.cut? markerOpen text).bind (fun (_, body) => Text.cut? markerClose body) = none)
    (offset : Nat) : markersFrom offset text = [] := by
  rw [markersFrom]
  split
  · rfl
  · next ho =>
    rw [ho, Option.bind_some] at h
    split
    · rfl
    · next hc => cases h.symm.trans hc

theorem markersFrom_of_passed
    (hl : Text.cut? markerOpen (a ++ b) =
      (Text.cut? markerOpen b).map fun (inner, after) => (a ++ inner, after)) (offset : Nat) :
    markersFrom offset (a ++ b) = markersFrom (offset + a.length) b := by
  cases ho : Text.cut? markerOpen b with
  | none =>
    rw [ho, Option.map_none] at hl
    rw [markersFrom_eq_nil (by rw [hl]; rfl), markersFrom_eq_nil (by rw [ho]; rfl)]
  | some parts =>
    obtain ⟨before, body⟩ := parts
    rw [ho, Option.map_some] at hl
    cases hc : Text.cut? markerClose body with
    | none =>
      rw [markersFrom_eq_nil (by rw [hl]; exact hc), markersFrom_eq_nil (by rw [ho]; exact hc)]
    | some parts =>
      obtain ⟨inner, after⟩ := parts
      rw [markersFrom_of_cut? hl hc, markersFrom_of_cut? ho hc, List.length_append,
        ← Nat.add_assoc]

theorem markersFrom_append_left (h : '/' ∉ a) (offset : Nat) (b : Text) :
    markersFrom offset (a ++ b) = markersFrom (offset + a.length) b :=
  markersFrom_of_passed (Text.cut?_append_left h ['*', '!', '['] b) offset

theorem markersFrom_marker (h : ']' ∉ expression) (offset : Nat) (rest : Text) :
    markersFrom offset (markerOpen ++ expression ++ markerClose ++ rest) =
      ⟨expression.strip, offset, offset + (markerOpen ++ expression ++ markerClose).length⟩ ::
        markersFrom (offset + (markerOpen ++ expression ++ markerClose).length) rest := by
  have ho : Text.cut? markerOpen (markerOpen ++ expression ++ markerClose ++ rest) =
      some ([], expression ++ markerClose ++ rest) := by
    simp [markerOpen, Text.cut?]
  have hc : Text.cut? markerClose (expression ++ markerClose ++ rest) = some (expression, rest) :=
    Text.cut?_of_not_mem h _ rest
  rw [markersFrom_of_cut? ho hc]
  rfl

-- ---------------------------------------------------------------------------
-- Where a marker stands
-- ---------------------------------------------------------------------------

theorem exists_of_mem_markersFrom {offset : Nat} {text : Text} {marker : Marker}
    (h : marker ∈ markersFrom offset text) :
    ∃ before inner after, text = before ++ markerOpen ++ inner ++ markerClose ++ after ∧
      Text.cut? markerClose (inner ++ markerClose ++ after) = some (inner, after) ∧
      marker.start = offset + before.length ∧
      marker.stop = offset + (before ++ markerOpen ++ inner ++ markerClose).length ∧
      marker.expression = inner.strip := by
  fun_induction markersFrom offset text with
  | case1 => cases h
  | case2 => cases h
  | case3 offset text before body ho inner after hc _ _ start stop ih =>
    have ht := Text.eq_of_cut? ho
    have hb := Text.eq_of_cut? hc
    have hs : stop = offset + (before ++ markerOpen ++ inner ++ markerClose).length := by
      simp only [stop, start, List.length_append]
      omega
    rcases List.mem_cons.mp h with rfl | h
    · refine ⟨before, inner, after, by simp [ht, hb], by rw [← hb, hc], rfl, hs, rfl⟩
    · obtain ⟨before', inner', after', rfl, hcut, hstart, hstop, he⟩ := ih h
      refine ⟨before ++ markerOpen ++ inner ++ markerClose ++ before', inner', after', ?_, hcut, ?_, ?_,
        he⟩
      · simp [ht, hb]
      · simp only [hstart, hs, List.length_append, Nat.add_assoc]
      · simp only [hstop, hs, List.length_append, Nat.add_assoc]

-- ---------------------------------------------------------------------------
-- Markers on both sides of a seam
-- ---------------------------------------------------------------------------

def Marker.shift (distance : Nat) (marker : Marker) : Marker :=
  { marker with start := distance + marker.start, stop := distance + marker.stop }

theorem markersFrom_add (distance offset : Nat) (text : Text) :
    markersFrom (distance + offset) text = (markersFrom offset text).map (.shift distance) := by
  fun_induction markersFrom offset text with
  | case1 offset text ho => rw [markersFrom_eq_nil (by rw [ho]; rfl), List.map_nil]
  | case2 offset text before body ho hc =>
    rw [markersFrom_eq_nil (by rw [ho]; exact hc), List.map_nil]
  | case3 offset text before body ho inner after hc _ _ start stop ih =>
    have hs : distance + offset + before.length + (markerOpen ++ inner ++ markerClose).length =
        distance + stop := by
      simp only [stop, start, List.length_append]
      omega
    rw [markersFrom_of_cut? ho hc, hs, ih, Nat.add_assoc]
    rfl

/-- Every opening delimiter begins in front of the end of a marker, so that none is left open. -/
def TerminatedFrom (offset : Nat) (text : Text) : Prop :=
  ∀ front back, text = front ++ markerOpen ++ back →
    ∃ marker ∈ markersFrom offset text, offset + front.length < marker.stop

theorem TerminatedFrom.after {offset : Nat} {before body inner after : Text}
    (h : TerminatedFrom offset a) (ho : Text.cut? markerOpen a = some (before, body))
    (hc : Text.cut? markerClose body = some (inner, after)) :
    TerminatedFrom (offset + before.length + (markerOpen ++ inner ++ markerClose).length) after := by
  intro front back he
  have ha : a = before ++ (markerOpen ++ inner ++ markerClose) ++ front ++ markerOpen ++ back := by
    rw [Text.eq_of_cut? ho, Text.eq_of_cut? hc, he]
    simp
  obtain ⟨marker, hm, hlt⟩ := h _ back ha
  rw [List.length_append, List.length_append, ← Nat.add_assoc, ← Nat.add_assoc] at hlt
  rw [markersFrom_of_cut? ho hc] at hm
  rcases List.mem_cons.mp hm with rfl | hm
  · exact absurd hlt (Nat.not_lt.mpr (Nat.le_add_right _ _))
  · exact ⟨marker, hm, hlt⟩

/-- Markers of two texts are found as if each text stood alone, when none is left open in the first
one and its last character opens none. -/
theorem markersFrom_append {offset : Nat} (h : TerminatedFrom offset a)
    (hs : ∀ c, a.getLast? = some c → c ∉ markerOpen) (b : Text) :
    markersFrom offset (a ++ b) = markersFrom offset a ++ markersFrom (offset + a.length) b := by
  fun_induction markersFrom offset a with
  | case1 offset a ho =>
    have hn : Text.occursIn markerOpen a = false := by rw [Text.occursIn, ho]; rfl
    exact markersFrom_of_passed (Text.cut?_append_right hn hs b) offset
  | case2 offset a before body ho hc =>
    -- An opening delimiter without a closing one stands behind all markers.
    obtain ⟨marker, hm, -⟩ := h before body (Text.eq_of_cut? ho)
    rw [markersFrom_eq_nil (by rw [ho]; exact hc)] at hm
    cases hm
  | case3 offset a before body ho inner after hc _ _ start stop ih =>
    have ha : a = before ++ (markerOpen ++ inner ++ markerClose) ++ after := by
      rw [Text.eq_of_cut? ho, Text.eq_of_cut? hc]
      simp
    have hstop : offset + before.length + (markerOpen ++ inner ++ markerClose).length = stop := by
      simp only [stop, start, List.length_append]
      omega
    have hl : ∀ c, after.getLast? = some c → c ∉ markerOpen := by
      intro c hc
      refine hs c ?_
      rw [ha, List.getLast?_append, hc, Option.some_or]
    have hlen : stop + after.length = offset + a.length := by
      simp only [← hstop, ha, List.length_append, Nat.add_assoc]
    rw [markersFrom_of_cut? (Text.cut?_append ho b) (Text.cut?_append hc b), hstop,
      ih (hstop ▸ h.after ho hc) hl, hlen]
    rfl

end Retheme.Sheet
