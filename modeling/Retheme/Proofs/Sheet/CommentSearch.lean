import Retheme.Proofs.Sheet.CommentFree
import Retheme.Proofs.Sheet.RuleName
import Retheme.Proofs.Text.Occurrence

/-!
# The search for comments

Comments are searched from the front. The search stops at the first place where
a comment begins, takes the shortest one there and goes on behind it. Blanking
writes spaces over just the comments of this search. It is final: no comment is
left, so that a text that is blanked once more, as it is on the way to the name
of a rule, stays the same.
-/

namespace Retheme.Sheet

-- ---------------------------------------------------------------------------
-- Comments one after the other
-- ---------------------------------------------------------------------------

/-- A stretch of a text: its first offset, and the one behind its last. -/
structure Span where
  start : Nat
  stop : Nat
  deriving DecidableEq, Repr

variable {text front : Text} {span other : Span} {offset position : Nat}

/-- Two delimiters and a body that does not hold the closing one, so that no shorter comment begins
at the same place. -/
def IsComment (text : Text) (span : Span) : Prop :=
  ∃ before body after, text = before ++ (commentOpen ++ body ++ commentClose) ++ after ∧
    Text.occursIn commentClose body = false ∧ span.start = before.length ∧
    span.stop = before.length + (body.length + 4)

/-- The comments that are found from an offset on. Each one is the first to begin behind the one
before. -/
inductive Finds (text : Text) : Nat → List Span → Prop
  | none {offset : Nat} (h : ∀ span, IsComment text span → span.start < offset) :
      Finds text offset []
  | next {offset : Nat} {span : Span} {spans : List Span} (hc : IsComment text span)
      (hle : offset ≤ span.start)
      (hf : ∀ other, IsComment text other → offset ≤ other.start → span.start ≤ other.start)
      (hr : Finds text span.stop spans) : Finds text offset (span :: spans)

def Covers (spans : List Span) (position : Nat) : Prop :=
  ∃ span ∈ spans, span.start ≤ position ∧ position < span.stop

theorem cut?_commentClose {body : Text} (hb : Text.occursIn commentClose body = false)
    (after : Text) :
    Text.cut? commentClose (body ++ commentClose ++ after) = some (body, after) := by
  simpa [commentClose] using Text.cut?_pair (by decide) hb after

theorem isComment_append_length (h : IsComment (front ++ text) span)
    (hs : span.start = front.length) :
    ∃ body after, text = commentOpen ++ body ++ commentClose ++ after ∧
      Text.cut? commentClose (body ++ commentClose ++ after) = some (body, after) ∧
      span.stop = front.length + (body.length + 4) := by
  obtain ⟨before, body, after, ht, hb, hstart, hstop⟩ := h
  have hlength : front.length = before.length := hs.symm.trans hstart
  rw [List.append_assoc before] at ht
  obtain ⟨rfl, rfl⟩ := List.append_inj ht hlength
  exact ⟨body, after, rfl, cut?_commentClose hb after, hstop⟩

theorem IsComment.unique (h : IsComment text span) (ho : IsComment text other)
    (hs : span.start = other.start) : span = other := by
  obtain ⟨before, body, after, rfl, hb, hstart, hstop⟩ := h
  rw [List.append_assoc] at ho
  obtain ⟨body', after', ht, hcut', hstop'⟩ := isComment_append_length ho (hs.symm.trans hstart)
  have hcut := cut?_commentClose hb after
  have htail : body ++ commentClose ++ after = body' ++ commentClose ++ after' := by
    simpa [commentOpen] using ht
  rw [htail, hcut'] at hcut
  cases hcut
  obtain ⟨start, stop⟩ := span
  obtain ⟨start', stop'⟩ := other
  simp_all

theorem Finds.unique {spans others : List Span} (h : Finds text offset spans)
    (ho : Finds text offset others) : spans = others := by
  induction h generalizing others with
  | none h =>
    cases ho with
    | none => rfl
    | next hc hle => exact absurd hle (Nat.not_le.mpr (h _ hc))
  | next hc hle hf hr ih =>
    cases ho with
    | none h => exact absurd hle (Nat.not_le.mpr (h _ hc))
    | next hc' hle' hf' hr' =>
      obtain rfl := hc.unique hc' (Nat.le_antisymm (hf _ hc' hle') (hf' _ hc hle))
      rw [ih hr']

theorem Finds.of_succ {spans : List Span} (h : ∀ span, IsComment text span → span.start ≠ offset)
    (hf : Finds text (offset + 1) spans) : Finds text offset spans := by
  have hlt {span : Span} (hc : IsComment text span) (hle : offset ≤ span.start) :
      offset + 1 ≤ span.start := Nat.lt_of_le_of_ne hle (h span hc).symm
  cases hf with
  | none hn =>
    refine .none fun span hc => ?_
    by_contra hge
    have := hn span hc
    have := hlt hc (Nat.not_lt.mp hge)
    omega
  | next hc hle hf hr =>
    exact .next hc (by omega) (fun other ho hge => hf other ho (hlt ho hge)) hr

-- ---------------------------------------------------------------------------
-- Pieces
-- ---------------------------------------------------------------------------

/-- Where the comments among some pieces stand, when the first piece stands at an offset. -/
def commentSpans (offset : Nat) : List Piece → List Span
  | [] => []
  | .plain _ :: pieces => commentSpans (offset + 1) pieces
  | .comment body :: pieces =>
    ⟨offset, offset + (body.length + 4)⟩ :: commentSpans (offset + (body.length + 4)) pieces

theorem le_start_of_mem_commentSpans {pieces : List Piece}
    (h : span ∈ commentSpans offset pieces) : offset ≤ span.start := by
  induction pieces generalizing offset with
  | nil => cases h
  | cons piece pieces ih =>
    cases piece with
    | plain c =>
      have := ih h
      omega
    | comment body =>
      rcases List.mem_cons.mp h with rfl | h
      · exact Nat.le_refl _
      · have := ih h
        omega

theorem start_ne_of_plain {c : Char} {rest : Text} {more : List Piece}
    (hp : pieces (c :: rest) = .plain c :: more) (hc : IsComment (front ++ c :: rest) span) :
    span.start ≠ front.length := by
  intro hs
  obtain ⟨body, after, ht, hcut, -⟩ := isComment_append_length hc hs
  have ht : c :: rest = '/' :: '*' :: (body ++ commentClose ++ after) := by
    simpa [commentOpen] using ht
  rw [ht, pieces_comment hcut] at hp
  cases hp

theorem finds_length (text : Text) : Finds text text.length [] := by
  refine .none ?_
  rintro span ⟨before, body, after, rfl, -, hstart, -⟩
  simp [hstart, commentOpen]

theorem finds_of_plain {c : Char} {rest : Text} {more : List Piece} {spans : List Span}
    (hp : pieces (c :: rest) = .plain c :: more)
    (h : Finds (front ++ [c] ++ rest) (front ++ [c]).length spans) :
    Finds (front ++ c :: rest) front.length spans := by
  refine .of_succ (fun span => start_ne_of_plain hp) ?_
  simpa using h

/-- The search from the front finds the comments among the pieces. -/
theorem finds_commentSpans (front text : Text) :
    Finds (front ++ text) front.length (commentSpans front.length (pieces text)) := by
  fun_induction pieces text generalizing front with
  | case1 => simpa [commentSpans] using finds_length front
  | case2 c =>
    have hp : pieces [c] = [.plain c] := by rw [pieces]
    exact finds_of_plain hp (by simpa [commentSpans] using finds_length (front ++ [c]))
  | case3 c d rest hc body after hcut _ ih =>
    obtain ⟨rfl, rfl⟩ := hc
    have ht : front ++ '/' :: '*' :: rest =
        front ++ (commentOpen ++ body ++ commentClose) ++ after := by
      simp [commentOpen, Text.eq_of_cut? hcut]
    have hlength : (front ++ (commentOpen ++ body ++ commentClose)).length =
        front.length + (body.length + 4) := by
      simp [commentOpen, commentClose]
    have hr := ih (front ++ (commentOpen ++ body ++ commentClose))
    rw [hlength, ← ht] at hr
    have hb : Text.occursIn commentClose body = false :=
      Text.occursIn_of_cut? (by simp [commentClose]) hcut
    exact .next ⟨front, body, after, ht, hb, rfl, rfl⟩ (Nat.le_refl _) (fun _ _ hge => hge) hr
  | case4 c d rest hc hcut ih =>
    obtain ⟨rfl, rfl⟩ := hc
    have hp : pieces ('/' :: '*' :: rest) = .plain '/' :: pieces ('*' :: rest) := by
      rw [pieces, if_pos ⟨rfl, rfl⟩]
      split
      · next h => rw [hcut] at h; cases h
      · rfl
    refine finds_of_plain hp ?_
    simpa [commentSpans] using ih (front ++ ['/'])
  | case5 c d rest hc ih =>
    refine finds_of_plain (pieces_plain (by simpa using hc)) ?_
    simpa [commentSpans] using ih (front ++ [c])

-- ---------------------------------------------------------------------------
-- What is blanked
-- ---------------------------------------------------------------------------

theorem covers_plain_iff {c : Char} {pieces : List Piece} :
    Covers (commentSpans offset (.plain c :: pieces)) position ↔
      Covers (commentSpans (offset + 1) pieces) position := Iff.rfl

theorem covers_comment_iff {body : Text} {pieces : List Piece} :
    Covers (commentSpans offset (.comment body :: pieces)) position ↔
      (offset ≤ position ∧ position < offset + (body.length + 4)) ∨
        Covers (commentSpans (offset + (body.length + 4)) pieces) position := by
  simp [Covers, commentSpans]

theorem getElem?_flatMap_blanked (pieces : List Piece) (offset position : Nat) :
    (Covers (commentSpans offset pieces) (offset + position) →
        (pieces.flatMap Piece.blanked)[position]? = some ' ') ∧
      (¬ Covers (commentSpans offset pieces) (offset + position) →
        (pieces.flatMap Piece.blanked)[position]? = (pieces.flatMap Piece.text)[position]?) := by
  induction pieces generalizing offset position with
  | nil => simp [Covers, commentSpans]
  | cons piece pieces ih =>
    cases piece with
    | plain c =>
      cases position with
      | zero =>
        refine ⟨?_, fun _ => rfl⟩
        rintro ⟨span, hs, hle, -⟩
        have : offset + 1 ≤ span.start := le_start_of_mem_commentSpans hs
        omega
      | succ place =>
        have := ih (offset + 1) place
        rw [Nat.add_right_comm, Nat.add_assoc offset place 1] at this
        simpa [Piece.blanked, Piece.text, covers_plain_iff] using this
    | comment body =>
      rw [covers_comment_iff, List.flatMap_cons, List.flatMap_cons]
      have hb : (Piece.comment body).blanked.length = body.length + 4 := by simp [Piece.blanked]
      have ht : (Piece.comment body).text.length = body.length + 4 := by
        rw [← Piece.length_blanked, hb]
      by_cases hp : position < body.length + 4
      · rw [List.getElem?_append_left (by omega)]
        refine ⟨fun _ => ?_, fun hn => absurd (.inl (by omega)) hn⟩
        simp [Piece.blanked, hp]
      · obtain ⟨place, rfl⟩ := Nat.exists_eq_add_of_le (Nat.le_of_not_lt hp)
        have := ih (offset + (body.length + 4)) place
        rw [List.getElem?_append_right (by omega), List.getElem?_append_right (by omega), hb, ht,
          Nat.add_sub_cancel_left, ← Nat.add_assoc]
        rwa [or_iff_right (by omega)]

-- ---------------------------------------------------------------------------
-- Blanking
-- ---------------------------------------------------------------------------

structure BlanksComments (text blanked : Text) : Prop where
  length_eq : blanked.length = text.length
  /-- Every character of the comments that are found is a space, and no other one changes. -/
  comments : ∃ spans, (∀ found, Finds text 0 found ↔ found = spans) ∧
    (∀ position, Covers spans position → blanked[position]? = some ' ') ∧
      ∀ position, ¬ Covers spans position → blanked[position]? = text[position]?
  commentFree : IsCommentFree blanked

theorem blanksComments (text : Text) : BlanksComments text (blankComments text) where
  length_eq := length_blankComments text
  comments := by
    have hf := finds_commentSpans [] text
    have hb (position : Nat) := getElem?_flatMap_blanked (pieces text) 0 position
    simp only [Nat.zero_add, flatMap_text_pieces] at hb
    refine ⟨commentSpans 0 (pieces text), fun found => ⟨fun h => h.unique hf, ?_⟩,
      fun position => (hb position).1, fun position => (hb position).2⟩
    rintro rfl
    exact hf
  commentFree := isCommentFree_blankComments text

-- ---------------------------------------------------------------------------
-- Blanking on the way to a name
-- ---------------------------------------------------------------------------

/-- The name at an offset as it is read in two steps. The last brace is looked for in the blanked
text, and the name in front of it is read from that text, which is blanked once more for it. -/
def ruleNameInSteps (source : Text) (position : Nat) : Text :=
  let blanked := blankComments source
  match beforeBrace? (blanked.take position) with
  | none => []
  | some front => ruleNameUpTo blanked front.length (insideAtRule front)

theorem ruleNameUpTo_front {rest : Text} (h : IsCommentFree (front ++ '{' :: rest))
    (nested : Bool) : ruleNameUpTo (front ++ '{' :: rest) front.length nested =
      canonicalName (if nested then fromAt front else afterRule front) := by
  have ho : offset (front ++ '{' :: rest) (front.length + 1) = (front ++ ['{']).length := by
    rw [offset, if_neg (by omega), List.length_append]
    rfl
  have hs : front ++ '{' :: rest = front ++ ['{'] ++ rest := List.append_cons ..
  rw [ruleNameUpTo, h.blankComments, ho, hs, List.take_left, beforeBrace?_snoc]

theorem ruleNameAt_eq_inSteps (source : Text) (position : Nat) :
    ruleNameAt source position = ruleNameInSteps source position := by
  rw [ruleNameAt, ruleNameInSteps]
  cases hb : beforeBrace? ((blankComments source).take position) with
  | none => rfl
  | some front =>
    obtain ⟨back, ht⟩ := beforeBrace?_eq_some hb
    obtain ⟨rest, hs⟩ : ∃ rest, blankComments source = front ++ '{' :: rest := by
      have hcut := List.take_append_drop position (blankComments source)
      rw [ht] at hcut
      exact ⟨back ++ (blankComments source).drop position, hcut.symm.trans (by simp)⟩
    have hfree := isCommentFree_blankComments source
    rw [hs] at hfree
    simp only [hs, ruleNameUpTo_front hfree]

/-- Blanking writes spaces over the leftmost and shortest comments and over nothing else, and leaves
none. A blanked text is not changed by another blanking, so the name at an offset is read from one
text, although it is blanked twice. -/
theorem blanking_final (text : Text) :
    BlanksComments text (blankComments text) ∧
      blankComments (blankComments text) = blankComments text ∧
      ∀ position, ruleNameAt text position = ruleNameInSteps text position :=
  ⟨blanksComments text, blankComments_blankComments text, ruleNameAt_eq_inSteps text⟩

/-- Delimiters that share characters: neither the slash nor the star of an opening delimiter closes
it, and a slash in front of one opens nothing. -/
example : blankComments "//*/ */*/ /*" = "/      */ /*" := by
  decide +kernel

end Retheme.Sheet
