import Retheme.Proofs.Sheet.Declaration
import Retheme.Proofs.Sheet.Marker
import Retheme.Proofs.Sheet.Reading

/-!
# Sheets that are put together

A sheet is whole when it ends with a closed block, leaves no comment and no
marker open, and ends the value of every marked declaration. Behind a whole
sheet another one can be put: nothing that is looked for from a marker, in
either direction, is found on the other side of the seam.
-/

namespace Retheme.Sheet

variable {a b rest text : Text} {marker : Marker} {position stop : Nat}

-- ---------------------------------------------------------------------------
-- Whole sheets
-- ---------------------------------------------------------------------------

def HasLineValue (text : Text) : Prop :=
  ∃ value terminator rest, text = value ++ terminator :: rest ∧ value ≠ [] ∧ '\n' ∉ value ∧
    (terminator = ';' ∨ terminator = '}')

/-- A sheet that ends with a block. No marker is left open, and a marker with a colon behind it has a
value there. -/
structure Whole (sheet : Text) : Prop extends Between sheet where
  /-- Every opening delimiter begins in front of the end of a marker. -/
  terminated : ∀ front back, sheet = front ++ markerOpen ++ back →
    ∃ marker ∈ markers sheet, front.length < marker.stop
  valued : ∀ marker ∈ markers sheet, ∀ before after,
    sheet.drop marker.stop = before ++ ':' :: after → ':' ∉ before → HasLineValue after

theorem Between.endsBlock_text (h : Between a) : EndsBlock a := by
  intro c hc
  cases hb : (blankComments a).getLast? with
  | none =>
    have hl := congrArg List.length (List.getLast?_eq_none_iff.mp hb)
    rw [length_blankComments, List.length_nil, List.length_eq_zero_iff] at hl
    rw [hl] at hc
    cases hc
  | some d =>
    obtain rfl := h.endsBlock d hb
    rw [getLast?_of_blankComments hb (by decide)] at hc
    exact (Option.some.inj hc).symm

theorem Between.blankComments_append (h : Between a) (b : Text) :
    blankComments (a ++ b) = blankComments a ++ blankComments b :=
  blankComments_append_of_seam h.closed fun hs => nomatch h.endsBlock_text _ hs

-- ---------------------------------------------------------------------------
-- Markers
-- ---------------------------------------------------------------------------

theorem Whole.markers_append (h : Whole a) (b : Text) :
    markers (a ++ b) = markers a ++ (markers b).map (.shift a.length) := by
  have ht : TerminatedFrom 0 a := by
    intro front back he
    rw [Nat.zero_add]
    exact h.terminated front back he
  have hs : ∀ c, a.getLast? = some c → c ∉ markerOpen := by
    intro c hc
    rw [h.endsBlock_text c hc]
    decide
  rw [markers, markersFrom_append ht hs, Nat.zero_add, ← Nat.add_zero a.length, markersFrom_add]
  rfl

theorem stop_le_length (h : marker ∈ markers text) :
    marker.start ≤ marker.stop ∧ marker.stop ≤ text.length := by
  obtain ⟨before, inner, after, rfl, -, hstart, hstop, -⟩ := exists_of_mem_markersFrom h
  simp only [Nat.zero_add, List.length_append] at hstart hstop ⊢
  omega

theorem terminated_of_drop (hm : marker ∈ markers text)
    (h : Text.occursIn markerOpen (text.drop marker.stop) = false) (front back : Text)
    (he : text = front ++ markerOpen ++ back) : ∃ marker ∈ markers text, front.length < marker.stop := by
  refine ⟨marker, hm, ?_⟩
  by_contra hlt
  have hd : text.drop marker.stop = front.drop marker.stop ++ markerOpen ++ back := by
    rw [he, List.append_assoc, List.drop_append_of_le_length (Nat.le_of_not_lt hlt),
      List.append_assoc]
  rw [Text.occursIn_eq_false_iff, hd] at h
  exact h ⟨_, _, rfl⟩

theorem Between.mem_drop (h : Between a) (hm : marker ∈ markers a) : '}' ∈ a.drop marker.stop := by
  obtain ⟨before, inner, after, ha, -, -, hstop, -⟩ := exists_of_mem_markersFrom hm
  rw [Nat.zero_add] at hstop
  rw [hstop, ha, List.drop_left]
  rw [ha] at h
  rcases List.eq_nil_or_concat after with rfl | ⟨front, c, rfl⟩
  · have hl := h.endsBlock_text '/' (by simp [markerClose])
    cases hl
  · obtain rfl := h.endsBlock_text c (by simp)
    simp

theorem afterMarker?_append_left (h : afterMarker? a position = some (stop, rest)) (b : Text) :
    afterMarker? (a ++ b) position = some (stop, rest ++ b) := by
  obtain ⟨⟨before, after⟩, hc, he⟩ := Option.map_eq_some_iff.mp h
  cases he
  have hp : position ≤ a.length := by
    by_contra hp
    rw [List.drop_eq_nil_of_le (Nat.le_of_not_le hp)] at hc
    cases hc
  rw [afterMarker?, List.drop_append_of_le_length hp, Text.cut?_append hc]
  rfl

theorem afterMarker?_append_right (a b : Text) (position : Nat) :
    afterMarker? (a ++ b) (a.length + position) =
      (afterMarker? b position).map fun (stop, rest) => (a.length + stop, rest) := by
  rw [afterMarker?, List.drop_length_add_append, afterMarker?, Option.map_map]
  refine congrArg (Option.map · _) (funext fun found => ?_)
  simp [Nat.add_assoc]

-- ---------------------------------------------------------------------------
-- Rule names
-- ---------------------------------------------------------------------------

theorem Between.ruleNameAt_left (h : Between a) (hp : position ≤ a.length) (b : Text) :
    ruleNameAt (a ++ b) position = ruleNameAt a position := by
  rw [ruleNameAt_eq, ruleNameAt_eq, h.blankComments_append,
    List.take_append_of_le_length (by rwa [length_blankComments])]

/-- The brace that opens the block is on this side of the seam, and what its name is made of too. -/
theorem Between.ruleNameAt_right (h : Between a) (hb : '{' ∈ (blankComments b).take position) :
    ruleNameAt (a ++ b) (a.length + position) = ruleNameAt b position := by
  rw [ruleNameAt_eq, ruleNameAt_eq, h.blankComments_append, ← length_blankComments a,
    List.take_length_add_append, nameBehind_behind h.endsBlock hb]

-- ---------------------------------------------------------------------------
-- Declarations
-- ---------------------------------------------------------------------------

theorem Between.declaredValue?_left (h : Between a) (hm : marker ∈ markers a) (b : Text) :
    declaredValue? (a ++ b) marker.start = declaredValue? a marker.start := by
  have ha := afterMarker?_start hm
  have hc := h.mem_drop hm
  have hb : ((a.drop marker.stop) ++ b).takeWhile (· != '}') =
      (a.drop marker.stop).takeWhile (· != '}') := by
    rw [List.takeWhile_append, if_neg]
    intro hl
    rw [← (List.takeWhile_prefix _).eq_of_length hl] at hc
    simpa using List.mem_takeWhile_imp hc
  rw [declaredValue?, declaredValue?, ha, afterMarker?_append_left ha]
  dsimp only
  rw [hb]

theorem declaredValue?_right (a b : Text) (position : Nat) :
    declaredValue? (a ++ b) (a.length + position) = declaredValue? b position := by
  rw [declaredValue?, declaredValue?, afterMarker?_append_right, List.drop_length_add_append]
  cases afterMarker? b position <;> rfl

theorem exists_terminator {chars : Text} {last : Char} (hn : '\n' ∉ chars)
    (hl : last = ';' ∨ last = '}') (rest : Text) :
    ∃ value terminator tail, chars ++ last :: rest = value ++ terminator :: tail ∧
      (∀ c ∈ value, c ≠ ';' ∧ c ≠ '}' ∧ c ≠ '\n') ∧ (terminator = ';' ∨ terminator = '}') := by
  induction chars with
  | nil => exact ⟨[], last, rest, rfl, nofun, hl⟩
  | cons c chars ih =>
    simp only [List.mem_cons, not_or] at hn
    by_cases hc : c = ';' ∨ c = '}'
    · exact ⟨[], c, chars ++ last :: rest, rfl, nofun, hc⟩
    · obtain ⟨value, terminator, tail, he, hv, ht⟩ := ih hn.2
      refine ⟨c :: value, terminator, tail, by rw [List.cons_append, he, List.cons_append], ?_, ht⟩
      intro d hd
      rcases List.mem_cons.mp hd with rfl | hd
      · rw [not_or] at hc
        exact ⟨hc.1, hc.2, Ne.symm hn.1⟩
      · exact hv d hd

theorem HasLineValue.cases (h : HasLineValue text) :
    ∃ c value terminator rest, text = c :: (value ++ terminator :: rest) ∧ c ≠ '\n' ∧
      (∀ d ∈ value, d ≠ ';' ∧ d ≠ '}' ∧ d ≠ '\n') ∧ (terminator = ';' ∨ terminator = '}') := by
  obtain ⟨chars, last, rest, rfl, hne, hn, hl⟩ := h
  cases chars with
  | nil => exact absurd rfl hne
  | cons c chars =>
    simp only [List.mem_cons, not_or] at hn
    obtain ⟨value, terminator, tail, he, hv, ht⟩ := exists_terminator hn.2 hl rest
    exact ⟨c, value, terminator, tail, by rw [List.cons_append, he], Ne.symm hn.1, hv, ht⟩

/-- Whether a declaration is important is settled by its own value, however far it reaches. -/
theorem HasLineValue.firstLineValue?_take (h : HasLineValue text) (rest : Text) (reach : Nat) :
    firstLineValue? ((':' :: (text ++ rest)).take reach) =
      firstLineValue? ((':' :: text).take reach) := by
  rw [← List.cons_append]
  by_cases hr : reach ≤ (':' :: text).length
  · rw [List.take_append_of_le_length hr]
  · obtain ⟨c, value, terminator, tail, rfl, hc, hv, ht⟩ := h.cases
    have hf : ∀ more, firstLineValue? (':' :: (c :: (value ++ terminator :: tail) ++ more)) =
        some (c :: value) := by
      intro more
      rw [List.cons_append, List.append_assoc, List.cons_append, firstLineValue?, if_pos rfl,
        lineValue?_of_chars hc hv ht, Option.some_or]
    have hle := Nat.le_of_not_le hr
    rw [List.take_append, List.take_of_length_le hle, List.cons_append, hf, ← hf [],
      List.append_nil]

theorem Between.contextAt_right (h : Between a) (hm : marker ∈ markers b)
    (hb : '{' ∈ (blankComments b).take marker.start) :
    contextAt (a ++ b) (a.length + marker.start) = contextAt b marker.start := by
  have ho : '{' ∈ (blankComments b).take marker.stop :=
    List.take_subset_take_left _ (stop_le_length hm).1 hb
  rw [contextAt, contextAt, afterMarker?_append_right, afterMarker?_start hm]
  dsimp only [Option.map_some]
  rw [h.ruleNameAt_right ho]

theorem Whole.contextAt_left (h : Whole a) (hm : marker ∈ markers a) (b : Text) :
    contextAt (a ++ b) marker.start = contextAt a marker.start := by
  have ha := afterMarker?_start hm
  have hab := afterMarker?_append_left ha b
  by_cases hc : ':' ∈ a.drop marker.stop
  · obtain ⟨before, after, hd, hn⟩ := List.eq_append_cons_of_mem hc
    have hv := h.valued marker hm before after hd hn
    have hcut := Text.cut?_of_not_mem hn [] after
    rw [List.append_assoc, List.singleton_append, ← hd] at hcut
    rw [contextAt, contextAt, ha, hab]
    dsimp only
    rw [h.ruleNameAt_left (stop_le_length hm).2, hcut, Text.cut?_append hcut]
    dsimp only
    rw [hv.firstLineValue?_take]
  · -- A colon of the other sheet is too far: the brace of this one's last block is in front of it.
    have hb := h.mem_drop hm
    rw [contextAt_detached hab hc hb]
    rw [← List.append_nil (a.drop marker.stop)] at ha
    rw [contextAt_detached ha hc hb]

end Retheme.Sheet
