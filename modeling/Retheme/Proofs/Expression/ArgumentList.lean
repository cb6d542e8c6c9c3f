import Retheme.Proofs.Expression.Frame
import Retheme.Proofs.Text.Surplus

/-!
# What splitting an argument list gives

An argument list can be split when it is settled. Its segments are what stands
between the commas at which no bracket and no quote is open, and the arguments
are the segments without the blanks around them; an empty last one is left out.
Nothing in this refers to how the list is read: the segments are joined to the
text by commas at just these places, and no other segments are.
-/

namespace Retheme

variable {brackets : Brackets} {separator c : Char} {nesting : Nesting} {a b text : Text}
  {first other args pieces segments : List Text} {position : Nat}

-- ---------------------------------------------------------------------------
-- Where pieces are joined
-- ---------------------------------------------------------------------------

namespace Text

def seams : List Text → List Nat
  | [] => []
  | [_] => []
  | piece :: next :: rest => piece.length :: (seams (next :: rest)).map (piece.length + 1 + ·)

theorem mem_seams_cons (piece : Text) (hp : pieces ≠ []) :
    position ∈ seams (piece :: pieces) ↔
      position = piece.length ∨ ∃ place ∈ seams pieces, piece.length + 1 + place = position := by
  cases pieces with
  | nil => exact absurd rfl hp
  | cons next rest => rw [seams, List.mem_cons, List.mem_map]

theorem seams_cons_cons (c : Char) (piece : Text) (pieces : List Text) :
    seams ((c :: piece) :: pieces) = (seams (piece :: pieces)).map (· + 1) := by
  cases pieces with
  | nil => rfl
  | cons next rest =>
    have hshift : (piece.length + 1 + 1 + ·) = (· + 1) ∘ (piece.length + 1 + ·) := by
      funext place
      simp only [Function.comp_apply]
      omega
    rw [seams, seams, List.map_cons, List.map_map, List.length_cons, hshift]

theorem eq_of_seams (hf : first ≠ []) (ho : other ≠ [])
    (hj : join [separator] first = join [separator] other)
    (hs : ∀ position, position ∈ seams first ↔ position ∈ seams other) : first = other := by
  induction first generalizing other with
  | nil => exact absurd rfl hf
  | cons piece pieces ih =>
    obtain ⟨piece', pieces', rfl⟩ := List.exists_cons_of_ne_nil ho
    cases pieces with
    | nil =>
      cases pieces' with
      | nil => exact congrArg (fun p : Text => [p]) hj
      | cons next rest =>
        have hm := (hs piece'.length).mpr ((mem_seams_cons _ (List.cons_ne_nil _ _)).mpr (.inl rfl))
        cases hm
    | cons next rest =>
      have hn : next :: rest ≠ [] := List.cons_ne_nil _ _
      have hn' : pieces' ≠ [] := by
        rintro rfl
        have hm := (hs piece.length).mp ((mem_seams_cons _ hn).mpr (.inl rfl))
        cases hm
      -- The first seam of each of them is no earlier than that of the other.
      have hlength : piece.length = piece'.length := by
        have hle := (hs piece.length).mp ((mem_seams_cons _ hn).mpr (.inl rfl))
        have hge := (hs piece'.length).mpr ((mem_seams_cons _ hn').mpr (.inl rfl))
        rw [mem_seams_cons _ hn'] at hle
        rw [mem_seams_cons _ hn] at hge
        rcases hle with he | ⟨_, -, hle⟩
        · exact he
        · rcases hge with he | ⟨_, -, hge⟩
          · exact he.symm
          · omega
      rw [join_cons _ _ hn, join_cons _ _ hn', List.append_assoc, List.append_assoc] at hj
      obtain ⟨rfl, hrest⟩ := List.append_inj hj hlength
      refine congrArg (piece :: ·) (ih hn hn' (List.append_cancel_left hrest) fun position => ?_)
      have hseam := hs (piece.length + 1 + position)
      rw [mem_seams_cons _ hn, mem_seams_cons _ hn'] at hseam
      have hne : piece.length + 1 + position ≠ piece.length := by omega
      simpa [hne] using hseam

end Text

open Text (seams surplus openQuote)

namespace Nesting

theorem mem_seams_split :
    position ∈ seams (split brackets separator nesting text) ↔
      ∃ c, text[position]? = some c ∧
        (nesting.behind brackets (text.take position)).separates brackets separator c = true := by
  induction text generalizing nesting position with
  | nil => simp [split, seams]
  | cons c rest ih =>
    have hn := split_ne_nil brackets separator (nesting.after brackets c) rest
    obtain ⟨piece, pieces, hs⟩ := List.exists_cons_of_ne_nil hn
    cases hc : nesting.separates brackets separator c with
    | true =>
      rw [split_cons_of_separates hc, Text.mem_seams_cons _ hn]
      cases position with
      | zero => simp [behind, hc]
      | succ place =>
        have hseam : (∃ later ∈ seams (split brackets separator (nesting.after brackets c) rest),
            1 + later = place + 1) ↔
              place ∈ seams (split brackets separator (nesting.after brackets c) rest) := by
          simp [Nat.add_comm 1]
        simpa [behind] using hseam.trans ih
    | false =>
      rw [split_cons_of_not_separates hc hs, Text.seams_cons_cons, ← hs, List.mem_map]
      cases position with
      | zero => simp [behind, hc]
      | succ place => simpa [behind] using ih

theorem split_append_separator_append (h : nesting.behind brackets a = top)
    (hs : top.separates brackets separator separator = true) (b : Text) :
    split brackets separator nesting (a ++ separator :: b) =
      split brackets separator nesting a ++ split brackets separator top b := by
  obtain ⟨front, last, ha⟩ := exists_last_split brackets separator nesting a
  have hb : split brackets separator (nesting.behind brackets a) (separator :: b) =
      [] :: split brackets separator top b := by
    rw [h, split_cons_of_separates hs, after_top_separator hs]
  rw [split_append_split ha hb, ha, List.append_nil, List.append_assoc, List.singleton_append]

end Nesting

namespace Expression

open Nesting
open Text (IsSettled)

-- ---------------------------------------------------------------------------
-- Segments
-- ---------------------------------------------------------------------------

/-- A comma at which no bracket and no quote is open. -/
structure IsCut (text : Text) (position : Nat) : Prop where
  comma : text[position]? = some ','
  depth : surplus none (text.take position) = 0
  unquoted : openQuote none (text.take position) = none

/-- What stands between the cuts of a text, in order. -/
structure AreSegments (text : Text) (segments : List Text) : Prop where
  ne_nil : segments ≠ []
  join_eq : Text.join [','] segments = text
  seams_eq : ∀ position, position ∈ seams segments ↔ IsCut text position

theorem AreSegments.unique (h : AreSegments text first) (ho : AreSegments text other) :
    first = other :=
  Text.eq_of_seams h.ne_nil ho.ne_nil (h.join_eq.trans ho.join_eq.symm) fun position =>
    (h.seams_eq position).trans (ho.seams_eq position).symm

theorem areSegments_split (h : IsSettled text) : AreSegments text (top.split .all ',' text) where
  ne_nil := split_ne_nil .all ',' top text
  join_eq := join_split .all ',' top text
  seams_eq position := by
    have htop := behind_eq_top_iff (isSettled_iff.mp h) (List.take_prefix position text)
    rw [mem_seams_split]
    constructor
    · rintro ⟨c, hc, hs⟩
      obtain ⟨rfl, ht⟩ := eq_of_separates hs
      exact ⟨hc, (htop.mp ht).1, (htop.mp ht).2⟩
    · rintro ⟨hc, hd, hq⟩
      exact ⟨',', hc, by rw [htop.mpr ⟨hd, hq⟩]; rfl⟩

/-- The last piece is left out if it is empty; no other one is. -/
def DropsEmptyLast (pieces args : List Text) : Prop :=
  pieces = args ++ [[]] ∨ pieces = args ∧ pieces.getLast? ≠ some []

theorem dropEmptyLast_eq_iff : dropEmptyLast pieces = args ↔ DropsEmptyLast pieces args := by
  rcases List.eq_nil_or_concat pieces with rfl | ⟨front, last, rfl⟩
  · simp [dropEmptyLast, DropsEmptyLast]
  · rw [List.concat_eq_append, dropEmptyLast_append front (List.cons_ne_nil last []),
      DropsEmptyLast]
    cases last with
    | nil => simp [dropEmptyLast]
    | cons c rest =>
      have hn : front ++ [c :: rest] ≠ args ++ [[]] := fun h => by
        simpa using (List.append_inj' h rfl).2
      simp [dropEmptyLast, hn]

-- ---------------------------------------------------------------------------
-- Splitting
-- ---------------------------------------------------------------------------

theorem splitArguments_eq_ok_iff :
    splitArguments text = .ok args ↔
      IsSettled text ∧ dropEmptyLast ((top.split .all ',' text).map Text.strip) = args := by
  rw [isSettled_iff]
  constructor
  · intro h
    obtain ⟨hp, rfl⟩ := passes?_of_splitArguments h
    exact ⟨hp, rfl⟩
  · rintro ⟨hp, rfl⟩
    exact splitArguments_of_passes hp

/-- Splitting succeeds on the settled texts, and gives the segments between the commas outside all
brackets and quotes, in order and without the blanks around them, but for an empty last one. Where
two lists are joined by a comma, no segment of the first is left out. -/
theorem splits_into_segments :
    (∀ text, (∃ args, splitArguments text = .ok args) ↔ IsSettled text) ∧
      (∀ text args, splitArguments text = .ok args ↔
        IsSettled text ∧ ∃ segments, AreSegments text segments ∧
          DropsEmptyLast (segments.map Text.strip) args) ∧
      ∀ a b front back, splitArguments a = .ok front → splitArguments b = .ok back →
        ∃ segments, AreSegments a segments ∧
          splitArguments (a ++ ',' :: b) = .ok (segments.map Text.strip ++ back) := by
  refine ⟨fun text => ?_, fun text args => ?_, fun a b front back ha hb => ?_⟩
  · simp only [splitArguments_eq_ok_iff, exists_and_left, exists_eq', and_true]
  · rw [splitArguments_eq_ok_iff]
    refine and_congr_right fun hs => ?_
    rw [dropEmptyLast_eq_iff]
    refine ⟨fun h => ⟨_, areSegments_split hs, h⟩, ?_⟩
    rintro ⟨segments, hsegments, h⟩
    rwa [(areSegments_split hs).unique hsegments]
  · obtain ⟨hsa, -⟩ := splitArguments_eq_ok_iff.mp ha
    obtain ⟨hsb, rfl⟩ := splitArguments_eq_ok_iff.mp hb
    have hpa := isSettled_iff.mp hsa
    have hpb := isSettled_iff.mp hsb
    have hcomma : passes? .all none top (',' :: b) = some top := hpb
    have hpieces : top.split .all ',' (a ++ ',' :: b) =
        top.split .all ',' a ++ top.split .all ',' b :=
      split_append_separator_append (foldl_after hpa) rfl b
    have hn : (top.split .all ',' b).map Text.strip ≠ [] := by
      simpa using split_ne_nil .all ',' top b
    refine ⟨_, areSegments_split hsa, splitArguments_eq_ok_iff.mpr ⟨?_, ?_⟩⟩
    · rw [isSettled_iff, passes?_append hpa, hcomma]
    · rw [hpieces, List.map_append, dropEmptyLast_append _ hn]

theorem splits_into_segments_colors :
    AreSegments "rgba(0, 0), " ["rgba(0, 0)".toList, " ".toList] ∧
      splitArguments "rgba(0, 0), ,'a, b'," = .ok ["rgba(0, 0)".toList, [], "'a, b'".toList] ∧
      ¬ IsSettled "(a, 'b)" := by
  obtain ⟨hok, -, hjoin⟩ := splits_into_segments
  have hfront : splitArguments "rgba(0, 0), " = .ok ["rgba(0, 0)".toList] := by decide +kernel
  have hback : splitArguments "'a, b'," = .ok ["'a, b'".toList] := by decide +kernel
  obtain ⟨segments, hs, he⟩ := hjoin _ _ _ _ hfront hback
  obtain rfl : segments = ["rgba(0, 0)".toList, " ".toList] :=
    hs.unique (areSegments_split ((hok _).mp ⟨_, hfront⟩))
  refine ⟨hs, he.trans rfl, fun h => ?_⟩
  obtain ⟨args, hargs⟩ := (hok _).mpr h
  cases hargs

end Expression

end Retheme
