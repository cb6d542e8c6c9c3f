import Retheme.Proofs.Sheet.Marker
import Retheme.Proofs.Text.Occurrence

/-!
# The search for markers

Markers are found in the order in which they stand, none within another, each
up to its first closing delimiter. No opening delimiter is passed over: it
begins a marker, it begins inside of one, or it stands at or behind one that is
never closed, at which the search ends.
-/

namespace Retheme.Sheet

variable {text front : Text} {marker : Marker} {offset position : Nat}

-- ---------------------------------------------------------------------------
-- Spans
-- ---------------------------------------------------------------------------

/-- The span of a marker in a text: an expression behind an opening delimiter, up to the first
closing one. -/
structure Marker.Spans (marker : Marker) (text : Text) : Prop where
  opened : Text.OccursAt markerOpen text marker.start
  closed : Text.OccursAt markerClose text (marker.stop - markerClose.length)
  length_le : marker.start + 7 ≤ marker.stop
  expression_eq : marker.expression = Text.strip
    ((text.take (marker.stop - markerClose.length)).drop (marker.start + markerOpen.length))
  first : ∀ position, marker.start ≤ position → position + markerClose.length < marker.stop →
    ¬ Text.OccursAt markerClose text position

theorem not_occursAt_markerClose_of_lt (hp : position < markerOpen.length) (before rest : Text) :
    ¬ Text.OccursAt markerClose (before ++ (markerOpen ++ rest)) (before.length + position) := by
  rw [Text.occursAt_append_length]
  intro ho
  have hc := ho.getElem?_eq
  rw [List.getElem?_append_left hp] at hc
  exact absurd (List.mem_of_getElem? hc) (by decide)

theorem spans_of_mem_markers (h : marker ∈ markers text) : marker.Spans text := by
  obtain ⟨before, inner, after, rfl, hcut, hstart, hstop, he⟩ := exists_of_mem_markersFrom h
  rw [Nat.zero_add] at hstart hstop
  have hopen : markerOpen.length = 4 := rfl
  have hclose : markerClose.length = 3 := rfl
  simp only [List.length_append] at hstop
  have hend : marker.stop - markerClose.length = (before ++ markerOpen ++ inner).length := by
    simp only [List.length_append]
    omega
  have hinner : marker.start + markerOpen.length = (before ++ markerOpen).length := by
    rw [hstart, List.length_append]
  constructor
  case opened =>
    rw [hstart]
    simpa only [List.append_assoc] using
      Text.occursAt_length before markerOpen (inner ++ (markerClose ++ after))
  case closed =>
    rw [hend]
    exact Text.occursAt_length (before ++ markerOpen ++ inner) markerClose after
  case length_le => omega
  case expression_eq =>
    rw [he, hend, hinner, List.append_assoc _ markerClose, List.take_left, List.drop_left]
  case first =>
    intro position hle hlt ho
    obtain ⟨distance, rfl⟩ := Nat.exists_eq_add_of_le hle
    rw [hstart] at ho hlt
    by_cases hd : distance < markerOpen.length
    · refine not_occursAt_markerClose_of_lt hd before (inner ++ markerClose ++ after) ?_
      simpa only [List.append_assoc] using ho
    · obtain ⟨more, rfl⟩ := Nat.exists_eq_add_of_le (Nat.le_of_not_lt hd)
      have ho : Text.OccursAt markerClose (before ++ markerOpen ++ (inner ++ markerClose ++ after))
          ((before ++ markerOpen).length + more) := by
        rw [List.length_append, Nat.add_assoc]
        simpa only [List.append_assoc] using ho
      have hl := Text.length_le_of_occursAt hcut ((Text.occursAt_append_length _ _ _).mp ho)
      omega

theorem le_start_of_mem_markersFrom (h : marker ∈ markersFrom offset text) :
    offset ≤ marker.start := by
  obtain ⟨before, -, -, -, -, hstart, -⟩ := exists_of_mem_markersFrom h
  exact hstart ▸ Nat.le_add_right offset before.length

theorem pairwise_markersFrom (offset : Nat) (text : Text) :
    (markersFrom offset text).Pairwise fun a b => a.stop ≤ b.start := by
  fun_induction markersFrom offset text with
  | case1 => exact .nil
  | case2 => exact .nil
  | case3 offset text before body ho inner after hc _ _ start stop ih =>
    exact .cons (fun _ => le_start_of_mem_markersFrom) ih

-- ---------------------------------------------------------------------------
-- Opening delimiters
-- ---------------------------------------------------------------------------

inductive Placed (text : Text) (found : List Marker) (position : Nat) : Prop
  | begins (marker : Marker) (hm : marker ∈ found) (hs : marker.start = position)
  /-- Of an opening delimiter that reaches over the end of a marker, only the slash lies inside. -/
  | within (marker : Marker) (hm : marker ∈ found) (hs : marker.start < position)
      (he : position + markerOpen.length ≤ marker.stop ∨ position + 1 = marker.stop)
  | behind (opening : Nat) (ho : Text.OccursAt markerOpen text opening) (hle : opening ≤ position)
      (hf : ∀ marker ∈ found, marker.stop ≤ opening)
      (hn : ∀ closing, opening + markerOpen.length ≤ closing →
        ¬ Text.OccursAt markerClose text closing)

/-- Every opening delimiter that the search comes to is found, passed over as part of a marker, or
not closed. -/
theorem placed_markersFrom (hf : front.length = offset) (hle : offset ≤ position)
    (hp : Text.OccursAt markerOpen (front ++ text) position) :
    (∃ marker ∈ markersFrom offset text, marker.start ≤ position ∧ position < marker.stop) ∨
      ∃ opening, offset ≤ opening ∧ opening ≤ position ∧
        Text.OccursAt markerOpen (front ++ text) opening ∧
        (∀ marker ∈ markersFrom offset text, marker.stop ≤ opening) ∧
        ∀ closing, opening + markerOpen.length ≤ closing →
          ¬ Text.OccursAt markerClose (front ++ text) closing := by
  have hlocal {offset : Nat} {front text : Text} (hf : front.length = offset)
      (hle : offset ≤ position) (hp : Text.OccursAt markerOpen (front ++ text) position) :
      Text.OccursAt markerOpen text (position - offset) := by
    rw [← Text.occursAt_append_length front, hf, Nat.add_sub_cancel' hle]
    exact hp
  fun_induction markersFrom offset text generalizing front with
  | case1 offset text ho =>
    exact absurd (hlocal hf hle hp) (Text.not_occursAt_of_cut?_eq_none ho _)
  | case2 offset text before body ho hc =>
    have hl := Text.length_le_of_occursAt ho (hlocal hf hle hp)
    have ht : front ++ text = front ++ before ++ markerOpen ++ body := by
      rw [Text.eq_of_cut? ho]
      simp only [List.append_assoc]
    refine .inr ⟨offset + before.length, Nat.le_add_right _ _, by omega, ?_, ?_, ?_⟩
    · rw [ht, ← hf, ← List.length_append]
      exact Text.occursAt_length (front ++ before) markerOpen body
    · intro marker hm
      cases hm
    · intro closing hle ho
      obtain ⟨more, rfl⟩ := Nat.exists_eq_add_of_le hle
      rw [ht, ← hf, ← List.length_append, ← List.length_append, Text.occursAt_append_length] at ho
      exact Text.not_occursAt_of_cut?_eq_none hc more ho
  | case3 offset text before body ho inner after hc _ _ start stop =>
    rename_i ih
    have hl := Text.length_le_of_occursAt ho (hlocal hf hle hp)
    by_cases hs : position < stop
    · have hstart : start ≤ position := by simp only [start]; omega
      exact .inl ⟨_, List.mem_cons_self, hstart, hs⟩
    · have ht : front ++ text = front ++ before ++ markerOpen ++ inner ++ markerClose ++ after := by
        rw [Text.eq_of_cut? ho, Text.eq_of_cut? hc]
        simp only [List.append_assoc]
      have hfront : (front ++ before ++ markerOpen ++ inner ++ markerClose).length = stop := by
        simp only [stop, start, List.length_append, hf]
      rw [ht] at hp ⊢
      rcases ih hfront (Nat.le_of_not_lt hs) hp with ⟨marker, hm, h⟩ | ⟨opening, hge, hle, ho, hb, hn⟩
      · exact .inl ⟨marker, List.mem_cons_of_mem _ hm, h⟩
      · refine .inr ⟨opening, ?_, hle, ho, ?_, hn⟩
        · simp only [stop, start] at hge
          omega
        · intro marker hm
          rcases List.mem_cons.mp hm with rfl | hm
          · exact hge
          · exact hb marker hm

theorem Marker.Spans.within_of_lt (h : marker.Spans text)
    (hp : Text.OccursAt markerOpen text position) (hlt : position < marker.stop) :
    position + markerOpen.length ≤ marker.stop ∨ position + 1 = marker.stop := by
  have hopen : markerOpen.length = 4 := rfl
  have hclose : markerClose.length = 3 := rfl
  by_contra hn
  have hstop := h.length_le
  obtain ⟨place, rfl⟩ : ∃ place, position = marker.stop - markerClose.length + place :=
    Nat.exists_eq_add_of_le (by omega)
  obtain ⟨rest, hr⟩ := h.closed
  have hd : text.drop (marker.stop - markerClose.length + place) = (markerClose ++ rest).drop place := by
    rw [hr, List.drop_drop]
  have hplace : place = 0 ∨ place = 1 := by omega
  rw [Text.OccursAt, hd] at hp
  rcases hplace with rfl | rfl
  · simp [markerOpen, markerClose] at hp
  · simp [markerOpen, markerClose] at hp

-- ---------------------------------------------------------------------------
-- Exactly the markers
-- ---------------------------------------------------------------------------

/-- What the markers of a text are. -/
structure AreMarkers (text : Text) (found : List Marker) : Prop where
  ordered : found.Pairwise fun a b => a.start < b.start ∧ a.stop ≤ b.start
  spans : ∀ marker ∈ found, marker.Spans text
  complete : ∀ position, Text.OccursAt markerOpen text position → Placed text found position

/-- Exactly the markers of a text are found. -/
theorem markers_exact (text : Text) : AreMarkers text (markers text) := by
  constructor
  case ordered =>
    refine (pairwise_markersFrom 0 text).imp_of_mem fun {a b} ha _ hle => ⟨?_, hle⟩
    have := (spans_of_mem_markers ha).length_le
    omega
  case spans => exact fun _ => spans_of_mem_markers
  case complete =>
    intro position hp
    rcases placed_markersFrom List.length_nil (Nat.zero_le position) hp with
      ⟨marker, hm, hle, hlt⟩ | ⟨opening, -, hle, ho, hf, hn⟩
    · rcases Nat.eq_or_lt_of_le hle with hs | hs
      · exact .begins marker hm hs
      · exact .within marker hm hs ((spans_of_mem_markers hm).within_of_lt hp hlt)
    · exact .behind opening ho hle hf hn

/-- An opening delimiter that begins with the last slash of a marker is passed over. -/
example : markers "/*![a]*/*![b]*/" = [⟨"a", 0, 8⟩] := by
  decide +kernel

end Retheme.Sheet
