import Retheme.Proofs.Sheet.Declaration
import Retheme.Proofs.Sheet.MarkerSearch
import Retheme.Proofs.Sheet.RuleName

/-!
# Markers among comments

Markers and comments are looked for in two ways that know nothing of each other,
though a marker is written as a comment. A marker is blanked out as a whole when
no comment can end within it: it holds a closing delimiter at its end only, and
its slash does not close a comment that is open in front of it
(`StandsAlone.getElem?_blankComments`). The name of the rule is then the same in
front of the marker and behind it.
-/

namespace Retheme.Sheet

variable {source before body after text : Text} {marker later : Marker}

-- ---------------------------------------------------------------------------
-- Comments that end where they should
-- ---------------------------------------------------------------------------

/-- The first closing delimiter behind a comment that is open ends it in front of another comment,
or with that one. -/
theorem cut?_commentClose_append (hb : before.getLast? ≠ some '*')
    (ho : Text.occursIn commentClose (commentOpen ++ body) = false) (after : Text) :
    (∃ inner rest, before = inner ++ commentClose ++ rest ∧
        Text.cut? commentClose (before ++ (commentOpen ++ body ++ commentClose ++ after)) =
          some (inner, rest ++ (commentOpen ++ body ++ commentClose ++ after))) ∨
      Text.cut? commentClose (before ++ (commentOpen ++ body ++ commentClose ++ after)) =
        some (before ++ (commentOpen ++ body), after) := by
  cases hc : Text.cut? commentClose before with
  | some found =>
    obtain ⟨inner, rest⟩ := found
    exact .inl ⟨inner, rest, Text.eq_of_cut? hc, Text.cut?_append hc _⟩
  | none =>
    have hn : Text.occursIn commentClose before = false := by rw [Text.occursIn, hc]; rfl
    have hseam := Text.occursIn_pair_append hn ho fun hl => absurd hl hb
    have hcut := Text.cut?_pair (by decide) hseam after
    refine .inr ?_
    rw [← hcut]
    simp [commentClose]

theorem getLast?_ne_of_append (front : Text) {rest : Text} {c : Char}
    (h : (front ++ rest).getLast? ≠ some c) : rest.getLast? ≠ some c := by
  intro hl
  rw [List.getLast?_append, hl, Option.some_or] at h
  exact h rfl

/-- A comment without a closing delimiter but the one at its end is blanked out, also where it
stands in another one. -/
theorem blankComments_around (hb : before.getLast? ≠ some '*')
    (ho : Text.occursIn commentClose (commentOpen ++ body) = false) (after : Text) :
    ∃ front back, front.length = before.length ∧
      blankComments (before ++ (commentOpen ++ body ++ commentClose ++ after)) =
        front ++ (List.replicate (body.length + 4) ' ' ++ back) := by
  induction hn : before.length using Nat.strongRecOn generalizing before with
  | ind n ih =>
    subst hn
    cases before with
    | nil =>
      have hbody : Text.occursIn commentClose body = false := Text.occursIn_right_of_append ho
      exact ⟨[], blankComments after, rfl, blankComments_comment hbody after⟩
    | cons c rest =>
      by_cases hc : c = '/' ∧ rest.head? = some '*'
      · obtain ⟨rfl, hr⟩ := hc
        obtain ⟨rest, rfl⟩ := List.head?_eq_some_iff.mp hr
        have hrest := getLast?_ne_of_append ['/', '*'] hb
        rw [List.cons_append, List.cons_append, blankComments]
        -- The comment in front ends there, or with the one that is looked for.
        rcases cut?_commentClose_append hrest ho after with ⟨inner, more, rfl, hcut⟩ | hcut
        · have hmore := getLast?_ne_of_append (inner ++ commentClose) hrest
          obtain ⟨front, back, hl, he⟩ := ih more.length (by simp; omega) hmore rfl
          rw [pieces_comment hcut, List.flatMap_cons, ← blankComments, he]
          refine ⟨List.replicate (inner.length + 4) ' ' ++ front, back, ?_, ?_⟩
          · simp [hl, commentClose]
            omega
          · simp only [Piece.blanked, List.append_assoc]
        · rw [pieces_comment hcut, List.flatMap_cons, ← blankComments]
          refine ⟨List.replicate (rest.length + 2) ' ', blankComments after, by simp, ?_⟩
          have hlen : (rest ++ (commentOpen ++ body)).length + 4 =
              rest.length + 2 + (body.length + 4) := by
            simp [commentOpen]
            omega
          rw [Piece.blanked, hlen, ← List.replicate_append_replicate, List.append_assoc]
      · have hp : ¬ (c = '/' ∧
            (rest ++ (commentOpen ++ body ++ commentClose ++ after)).head? = some '*') := by
          cases rest with
          | nil => simp [commentOpen]
          | cons => simpa using hc
        obtain ⟨front, back, hl, he⟩ := ih rest.length (by simp)
          (getLast?_ne_of_append [c] hb) rfl
        rw [List.cons_append, blankComments, pieces_plain hp, List.flatMap_cons, ← blankComments,
          he]
        exact ⟨c :: front, back, by simp [hl], rfl⟩

-- ---------------------------------------------------------------------------
-- Markers that are comments of their own
-- ---------------------------------------------------------------------------

structure StandsAlone (source : Text) (marker : Marker) : Prop where
  mem : marker ∈ markers source
  not_closed : Text.occursIn commentClose
    ((source.take (marker.stop - commentClose.length)).drop marker.start) = false
  behind : (source.take marker.start).getLast? ≠ some '*'

/-- No block opens between a marker and one that does not stand before it, which may be the marker
itself. -/
structure SameBlock (source : Text) (marker later : Marker) : Prop where
  le : marker.start ≤ later.start
  not_brace : '{' ∉ ((blankComments source).take later.start).drop marker.stop

theorem StandsAlone.exists_blankComments_eq (h : StandsAlone source marker) :
    ∃ front back, front.length = marker.start ∧
      blankComments source =
        front ++ (List.replicate (marker.stop - marker.start) ' ' ++ back) := by
  obtain ⟨before, inner, after, rfl, -, hstart, hstop, -⟩ := exists_of_mem_markersFrom h.mem
  rw [Nat.zero_add] at hstart hstop
  let body : Text := '!' :: '[' :: (inner ++ [']'])
  have hspan : markerOpen ++ inner ++ markerClose = commentOpen ++ body ++ commentClose := by
    simp [markerOpen, markerClose, commentOpen, commentClose, body]
  have ht : before ++ markerOpen ++ inner ++ markerClose ++ after =
      before ++ (commentOpen ++ body ++ commentClose ++ after) := by
    rw [← hspan]
    simp only [List.append_assoc]
  have hlen : marker.stop = (before ++ (commentOpen ++ body)).length + commentClose.length := by
    rw [hstop, ← List.length_append]
    simp only [List.append_assoc] at hspan ⊢
    rw [← hspan]
  have hb : before.getLast? ≠ some '*' := by
    have hb := h.behind
    rwa [hstart, ht, List.take_left] at hb
  have ho : Text.occursIn commentClose (commentOpen ++ body) = false := by
    have ho := h.not_closed
    rwa [ht, hlen, Nat.add_sub_cancel, hstart, ← List.append_assoc, ← List.append_assoc,
      ← List.append_assoc, List.append_assoc _ commentClose, List.append_assoc before,
      List.take_left, List.drop_left] at ho
  obtain ⟨front, back, hl, he⟩ := blankComments_around hb ho after
  have hcount : marker.stop - marker.start = body.length + 4 := by
    rw [hlen, hstart, List.length_append, List.length_append]
    simp only [commentOpen, commentClose, List.length_cons, List.length_nil]
    omega
  exact ⟨front, back, by rw [hl, hstart], by rw [ht, he, hcount]⟩

theorem StandsAlone.getElem?_blankComments (h : StandsAlone source marker) {place : Nat}
    (hle : marker.start ≤ place) (hlt : place < marker.stop) :
    (blankComments source)[place]? = some ' ' := by
  obtain ⟨front, back, hl, he⟩ := h.exists_blankComments_eq
  rw [he, List.getElem?_append_right (by omega), List.getElem?_append_left (by simp; omega),
    List.getElem?_replicate, if_pos (by omega)]

-- ---------------------------------------------------------------------------
-- The rule around a marker
-- ---------------------------------------------------------------------------

theorem ruleNameAt_congr {first last : Nat} (hle : first ≤ last)
    (h : ∀ place, first ≤ place → place < last → (blankComments source)[place]? ≠ some '{') :
    ruleNameAt source last = ruleNameAt source first := by
  have hs := List.take_append_drop first ((blankComments source).take last)
  rw [List.take_take, Nat.min_eq_left hle] at hs
  rw [ruleNameAt_eq, ruleNameAt_eq, ← hs, nameBehind_append]
  intro hm
  obtain ⟨place, hp⟩ := List.mem_iff_getElem?.mp hm
  rw [List.getElem?_drop, List.getElem?_take] at hp
  split at hp
  · next hlt => exact h _ (Nat.le_add_right _ _) hlt hp
  · cases hp

/-- The rule is the same in front of a marker and at one behind it in the same block. -/
theorem StandsAlone.ruleNameAt_eq (h : StandsAlone source marker)
    (hs : SameBlock source marker later) :
    ruleNameAt source later.start = ruleNameAt source marker.start := by
  refine ruleNameAt_congr hs.le fun place hle hlt => ?_
  by_cases hp : place < marker.stop
  · rw [h.getElem?_blankComments hle hp]
    decide
  · have hplace : marker.stop + (place - marker.stop) = place :=
      Nat.add_sub_cancel' (Nat.le_of_not_lt hp)
    intro he
    refine hs.not_brace (List.mem_of_getElem? (i := place - marker.stop) ?_)
    rw [List.getElem?_drop, hplace, List.getElem?_take, if_pos hlt, he]

theorem StandsAlone.ruleNameAt_stop (h : StandsAlone source marker) :
    ruleNameAt source marker.stop = ruleNameAt source marker.start := by
  have hle : marker.start ≤ marker.stop := by
    have := (spans_of_mem_markers h.mem).length_le
    omega
  refine ruleNameAt_congr hle fun place hle hlt => ?_
  rw [h.getElem?_blankComments hle hlt]
  decide

theorem StandsAlone.contextAt_rule (h : StandsAlone source marker)
    (hp : (contextAt source marker.start).prop ≠ []) :
    (contextAt source marker.start).rule = ruleNameAt source marker.start := by
  rw [contextAt_rule_of_prop (afterMarker?_start h.mem) hp, h.ruleNameAt_stop]

end Retheme.Sheet
