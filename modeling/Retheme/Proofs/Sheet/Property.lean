import Retheme.Proofs.Sheet.Comment
import Retheme.Proofs.Sheet.Declaration
import Retheme.Proofs.Text.Blank

/-!
# The property of a marker

A marker is given all the text up to the next colon as its property, without
blanks. Comments and markers that stand there belong to it. It is a property
without comment delimiters exactly when none of them stands there and the text
itself spells no delimiter.
-/

namespace Retheme.Sheet

variable {source pattern text : Text} {marker : Marker}

-- ---------------------------------------------------------------------------
-- Texts in front of a colon
-- ---------------------------------------------------------------------------

def Piece.IsPlain : Piece → Prop
  | plain _ => True
  | comment _ => False

theorem isPlain_of_commentless (h : Text.occursIn commentOpen text = false) :
    ∀ piece ∈ pieces text, piece.IsPlain := by
  rw [pieces_of_commentless h]
  intro piece hp
  obtain ⟨c, -, rfl⟩ := List.mem_map.mp hp
  trivial

theorem eraseComments_of_plain (h : ∀ piece ∈ pieces text, piece.IsPlain) :
    eraseComments text = text := by
  conv_rhs => rw [← flatMap_text_pieces text]
  refine List.flatMap_congr fun piece hp => ?_
  cases piece with
  | plain => rfl
  | comment => exact (h _ hp).elim

def beforeColon (pieces : List Piece) : List Piece := pieces.takeWhile (· != .plain ':')

theorem beforeColon_plain {c : Char} (hc : c ≠ ':') (pieces : List Piece) :
    beforeColon (.plain c :: pieces) = .plain c :: beforeColon pieces := by
  simp [beforeColon, hc]

theorem beforeColon_comment (body : Text) (pieces : List Piece) :
    beforeColon (.comment body :: pieces) = .comment body :: beforeColon pieces := by
  simp [beforeColon]

theorem takeWhile_of_plain {pieces : List Piece} (h : ∀ piece ∈ beforeColon pieces, piece.IsPlain) :
    (pieces.flatMap Piece.text).takeWhile (· != ':') =
      (beforeColon pieces).flatMap Piece.erased := by
  induction pieces with
  | nil => rfl
  | cons piece pieces ih =>
    cases piece with
    | comment body =>
      rw [beforeColon_comment] at h
      exact (h _ List.mem_cons_self).elim
    | plain c =>
      by_cases hc : c = ':'
      · simp [hc, beforeColon, Piece.text]
      · rw [beforeColon_plain hc] at h ⊢
        have ih := ih fun piece hp => h piece (List.mem_cons_of_mem _ hp)
        simp [Piece.text, Piece.erased, hc, ih]

theorem infix_takeWhile_of_comment {pieces : List Piece} {piece : Piece}
    (hm : piece ∈ beforeColon pieces) (hp : ¬ piece.IsPlain) :
    commentOpen <:+: (pieces.flatMap Piece.text).takeWhile (· != ':') := by
  induction pieces with
  | nil => cases hm
  | cons first pieces ih =>
    cases first with
    | comment body =>
      refine List.IsPrefix.isInfix ?_
      simp [Piece.text, commentOpen]
    | plain c =>
      by_cases hc : c = ':'
      · simp [hc, beforeColon] at hm
      · rw [beforeColon_plain hc] at hm
        rcases List.mem_cons.mp hm with rfl | hm
        · exact absurd trivial hp
        · simpa [Piece.text, hc] using (ih hm).trans (List.suffix_cons c _).isInfix

theorem infix_takeWhile_of_marker {other : Marker} {stop : Nat} (ho : other ∈ markers source)
    (hle : stop ≤ other.start) (hc : ':' ∉ (source.drop stop).take (other.start - stop)) :
    markerOpen <:+: (source.drop stop).takeWhile (· != ':') := by
  obtain ⟨before, inner, after, hs, -, hstart, -⟩ := exists_of_mem_markersFrom ho
  rw [Nat.zero_add] at hstart
  -- The text in front of the marker is passed, and then its opening delimiter.
  have hcut : source.drop stop = (source.drop stop).take (other.start - stop) ++
      (markerOpen ++ (inner ++ markerClose ++ after)) := by
    have hd : (source.drop stop).drop (other.start - stop) = source.drop other.start := by
      rw [List.drop_drop, Nat.add_sub_cancel' hle]
    have hm : source.drop other.start = markerOpen ++ (inner ++ markerClose ++ after) := by
      rw [hstart, hs]
      simp
    rw [← hm, ← hd, List.take_append_drop]
  have hpass : ∀ c ∈ (source.drop stop).take (other.start - stop), (c != ':') = true := by
    intro c hm
    rw [bne_iff_ne]
    rintro rfl
    exact hc hm
  have hopen : ∀ c ∈ markerOpen, (c != ':') = true := by decide
  rw [hcut, List.takeWhile_append_of_pos hpass, List.takeWhile_append_of_pos hopen]
  exact ⟨_, _, List.append_assoc _ _ _⟩

theorem infix_removeBlanks (hp : ∀ c ∈ pattern, Text.isBlank c = false) (h : pattern <:+: text) :
    pattern <:+: Text.removeBlanks text := by
  have hf := h.filter (!Text.isBlank ·)
  rwa [← Text.removeBlanks, ← Text.removeBlanks, Text.removeBlanks_eq_self hp] at hf

-- ---------------------------------------------------------------------------
-- Recorded properties
-- ---------------------------------------------------------------------------

def FreeOfDelimiters (text : Text) : Prop :=
  ¬ commentOpen <:+: text ∧ ¬ commentClose <:+: text

def propWithoutComments (rest : Text) : Text :=
  Text.removeBlanks ((beforeColon (pieces rest)).flatMap Piece.erased)

structure ReadsProperty (source : Text) (marker : Marker) : Prop where
  /-- It is the text up to the next colon without blanks, whatever stands there. -/
  prop_eq : (contextAt source marker.start).prop =
    Text.removeBlanks ((source.drop marker.stop).takeWhile (· != ':'))
  free_iff : (FreeOfDelimiters (contextAt source marker.start).prop ∧
      (contextAt source marker.start).prop = propWithoutComments (source.drop marker.stop)) ↔
    (∀ piece ∈ beforeColon (pieces (source.drop marker.stop)), piece.IsPlain) ∧
      FreeOfDelimiters (propWithoutComments (source.drop marker.stop))
  /-- Another marker in front of the colon is part of it. -/
  marker_infix : ∀ other ∈ markers source, marker.stop ≤ other.start →
    ':' ∉ (source.drop marker.stop).take (other.start - marker.stop) →
      markerOpen <:+: (contextAt source marker.start).prop

theorem readsProperty (hm : marker ∈ markers source)
    (hv : (contextAt source marker.start).isValid = true) : ReadsProperty source marker := by
  obtain ⟨marked, rfl⟩ := exists_markedProperty hm hv
  generalize hrest : source.drop marked.marker.stop = rest
  have hprop : (contextAt source marked.marker.start).prop =
      Text.removeBlanks (rest.takeWhile (· != ':')) := by
    rw [marked.contextAt_eq, ← hrest, marked.takeWhile_behind]
  have hpieces : rest.takeWhile (· != ':') =
      ((pieces rest).flatMap Piece.text).takeWhile (· != ':') := by
    rw [flatMap_text_pieces]
  constructor
  case prop_eq => rw [hprop, hrest]
  case free_iff =>
    rw [hprop, hrest]
    constructor
    · rintro ⟨hfree, he⟩
      refine ⟨fun piece hp => ?_, he ▸ hfree⟩
      by_contra hn
      refine hfree.1 (infix_removeBlanks (by decide) ?_)
      rw [hpieces]
      exact infix_takeWhile_of_comment hp hn
    · rintro ⟨hplain, hfree⟩
      have he : Text.removeBlanks (rest.takeWhile (· != ':')) = propWithoutComments rest := by
        rw [hpieces, takeWhile_of_plain hplain, propWithoutComments]
      exact ⟨he ▸ hfree, he⟩
  case marker_infix =>
    intro other ho hle hc
    rw [hprop, ← hrest]
    exact infix_removeBlanks (by decide) (infix_takeWhile_of_marker ho hle hc)

def twoMarkers : Text := ".a \x7b /*![demo.x]*/ /*![other.y]*/ color: red; \x7d"

theorem readsProperty_twoMarkers :
    ⟨"demo.x", 5, 18⟩ ∈ markers twoMarkers ∧ (contextAt twoMarkers 5).isValid = true ∧
      ReadsProperty twoMarkers ⟨"demo.x", 5, 18⟩ := by
  have hm : ⟨"demo.x", 5, 18⟩ ∈ markers twoMarkers := by decide +kernel
  have hv : (contextAt twoMarkers 5).isValid = true := by decide +kernel
  exact ⟨hm, hv, readsProperty hm hv⟩

/-- A marker in front of another one has it in its property. -/
theorem not_freeOfDelimiters_twoMarkers :
    ¬ ∀ (source : Text), ∀ marker ∈ markers source, (contextAt source marker.start).isValid = true →
      FreeOfDelimiters (contextAt source marker.start).prop := by
  intro h
  have hm : ⟨"demo.x", 5, 18⟩ ∈ markers twoMarkers := by decide +kernel
  have hc : contextAt twoMarkers 5 = ⟨"/*![other.y]*/color", ".a", false⟩ := by decide +kernel
  have hf := h twoMarkers ⟨"demo.x", 5, 18⟩ hm (by rw [hc]; rfl)
  rw [hc] at hf
  exact hf.1 (by decide)

end Retheme.Sheet
