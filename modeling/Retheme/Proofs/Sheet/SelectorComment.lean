import Retheme.Proofs.Sheet.NamePart
import Retheme.Proofs.Sheet.RuleName

/-!
# Comments in selectors

The name of a rule is read from the blanked text, so a comment in a selector
counts as spaces, whereas a canonical name drops it. The two names agree exactly
when every comment stands beside a space or at an end of its selector: inside
of a compound selector a comment leaves a space behind.
-/

namespace Retheme.Sheet

variable {a b rest prelude : Text} {comments : List Piece}

-- ---------------------------------------------------------------------------
-- The selector around a place
-- ---------------------------------------------------------------------------

def selectorFront (front : Text) : Text :=
  (Text.splitTop ',' front).getLast (Nesting.split_ne_nil _ _ _ _)

def selectorBack (front back : Text) : Text :=
  ((Nesting.top.behind .roundSquare front).split .roundSquare ',' back).head
    (Nesting.split_ne_nil _ _ _ _)

/-- A place beside a space, or with nothing but selector blanks up to an end of its selector. -/
def IsSetOff (front back : Text) : Prop := Absorbs (selectorFront front) (selectorBack front back)

theorem isPlain_of_mem_spaces {n : Nat} :
    ∀ c ∈ List.replicate n ' ', Nesting.isPlain .roundSquare (some ',') c = true := fun _ hc =>
  isPlain_of_isSelectorBlank (isSelectorBlank_of_mem_spaces hc)

/-- Spaces lie in the selector around their place, and no other selector changes. -/
theorem exists_splitTop_spaces (a b : Text) :
    ∃ front back, (back = [] → selectorBack a b = b) ∧
      ∀ n, Text.splitTop ',' (a ++ (List.replicate n ' ' ++ b)) =
        front ++ (selectorFront a ++ (List.replicate n ' ' ++ selectorBack a b)) :: back := by
  have hn : (Nesting.top.behind .roundSquare a).IsProper := Nesting.isProper_top.behind a
  have hsplit : (Nesting.top.behind .roundSquare a).split .roundSquare ',' b =
      selectorBack a b :: ((Nesting.top.behind .roundSquare a).split .roundSquare ',' b).tail :=
    (List.cons_head_tail _).symm
  refine ⟨(Text.splitTop ',' a).dropLast,
    ((Nesting.top.behind .roundSquare a).split .roundSquare ',' b).tail, fun ht => ?_, fun n => ?_⟩
  · rw [ht] at hsplit
    have hj := Nesting.join_split .roundSquare ',' (Nesting.top.behind .roundSquare a) b
    rwa [hsplit] at hj
  · refine Nesting.split_append_split (List.dropLast_append_getLast _).symm
      (Nesting.split_append_of_isWhole (Nesting.isWhole_plain hn isPlain_of_mem_spaces) ?_)
    rwa [Nesting.behind_plain hn isPlain_of_mem_spaces]

theorem nameParts_spaces (h : IsSetOff a b) (n : Nat) :
    nameParts (a ++ (List.replicate (n + 1) ' ' ++ b)) = nameParts (a ++ b) := by
  obtain ⟨front, back, -, hs⟩ := exists_splitTop_spaces a b
  have hnone : Text.splitTop ',' (a ++ b) = front ++ (selectorFront a ++ selectorBack a b) :: back :=
    hs 0
  rw [nameParts_eq, nameParts_eq, hs, hnone, List.map_append, List.map_cons, List.map_append,
    List.map_cons, namePart_spaces h]

theorem length_join_nameParts_spaces (h : ¬ IsSetOff a b) (n : Nat) :
    (Text.join [','] (nameParts (a ++ (List.replicate (n + 1) ' ' ++ b)))).length =
      (Text.join [','] (nameParts (a ++ b))).length + 1 := by
  obtain ⟨front, back, -, hs⟩ := exists_splitTop_spaces a b
  have hnone : Text.splitTop ',' (a ++ b) = front ++ (selectorFront a ++ selectorBack a b) :: back :=
    hs 0
  have hp := length_namePart_spaces h n
  have hj := Text.length_join_replace [','] (namePart (selectorFront a ++ selectorBack a b))
    (namePart (selectorFront a ++ (List.replicate (n + 1) ' ' ++ selectorBack a b)))
    (front.map namePart) (back.map namePart)
  rw [nameParts_eq, nameParts_eq, hs, hnone, List.map_append, List.map_cons, List.map_append,
    List.map_cons]
  omega

-- ---------------------------------------------------------------------------
-- Places behind spaces
-- ---------------------------------------------------------------------------

theorem selectorBack_spaces (a rest b : Text) (n : Nat) :
    selectorBack (a ++ (List.replicate n ' ' ++ rest)) b = selectorBack (a ++ rest) b := by
  have hb : Nesting.top.behind .roundSquare (a ++ (List.replicate n ' ' ++ rest)) =
      Nesting.top.behind .roundSquare (a ++ rest) := by
    rw [Nesting.behind_append, Nesting.behind_append a,
      Nesting.behind_plain_append (Nesting.isProper_top.behind a) isPlain_of_mem_spaces]
  simp only [selectorBack, hb]

theorem selectorFront_of_splitTop {text last : Text} {front : List Text}
    (h : Text.splitTop ',' text = front ++ [last]) : selectorFront text = last := by
  simp only [selectorFront, h, List.getLast_append_singleton]

theorem absorbs_spaces_iff (n : Nat) (hr : rest ≠ []) :
    Absorbs (a ++ (List.replicate n ' ' ++ rest)) b ↔ Absorbs (a ++ rest) b := by
  have hl : (a ++ (List.replicate n ' ' ++ rest)).getLast? = (a ++ rest).getLast? := by
    rw [← List.append_assoc, List.getLast?_append_of_ne_nil _ hr,
      List.getLast?_append_of_ne_nil _ hr]
  have hb : (∀ c ∈ a ++ (List.replicate n ' ' ++ rest), isSelectorBlank c = true) ↔
      ∀ c ∈ a ++ rest, isSelectorBlank c = true := by
    simp only [List.forall_mem_append]
    exact and_congr_right fun _ => and_iff_right fun _ => isSelectorBlank_of_mem_spaces
  rw [Absorbs, Absorbs, hl, hb]

theorem isSetOff_spaces_iff (n : Nat) (h : IsSetOff a (rest ++ b)) :
    IsSetOff (a ++ (List.replicate (n + 1) ' ' ++ rest)) b ↔ IsSetOff (a ++ rest) b := by
  obtain ⟨front, back, hback, hs⟩ := exists_splitTop_spaces a rest
  rw [IsSetOff, IsSetOff, selectorBack_spaces]
  rcases List.eq_nil_or_concat back with rfl | ⟨more, last, rfl⟩
  · have hb := hback rfl
    have hnone : selectorFront (a ++ rest) = selectorFront a ++ selectorBack a rest :=
      selectorFront_of_splitTop (hs 0)
    rw [selectorFront_of_splitTop (hs (n + 1)), hnone, hb]
    by_cases hr : rest = []
    · subst hr
      -- Nothing stands between the spaces and the place, which is set off without them.
      have hspace : (selectorFront a ++ (List.replicate (n + 1) ' ' ++ [])).getLast? = some ' ' := by
        rw [List.append_nil, List.replicate_succ', ← List.append_assoc, List.getLast?_concat]
      rw [List.append_nil a, List.append_nil (selectorFront a)]
      exact iff_of_true (.inl hspace) h
    · exact absorbs_spaces_iff (n + 1) hr
  · have hlast (k : Nat) : selectorFront (a ++ (List.replicate k ' ' ++ rest)) = last := by
      have hsnoc := hs k
      rw [List.concat_eq_append, ← List.cons_append, ← List.append_assoc front] at hsnoc
      exact selectorFront_of_splitTop hsnoc
    have hnone : selectorFront (a ++ rest) = last := hlast 0
    rw [hlast, hnone]

-- ---------------------------------------------------------------------------
-- All comments
-- ---------------------------------------------------------------------------

/-- Every comment of a text that stands behind another text is set off, once all comments are
dropped. -/
def AreSetOff (before : Text) (pieces : List Piece) : Prop :=
  ∀ front body back, pieces = front ++ .comment body :: back →
    IsSetOff (before ++ front.flatMap Piece.erased) (back.flatMap Piece.erased)

theorem areSetOff_plain_iff {c : Char} :
    AreSetOff a (.plain c :: comments) ↔ AreSetOff (a ++ [c]) comments := by
  constructor
  · rintro h front body back rfl
    have hs := h (.plain c :: front) body back rfl
    rwa [List.flatMap_cons, Piece.erased, ← List.append_assoc] at hs
  · intro h front body back he
    cases front with
    | nil => cases he
    | cons piece front =>
      obtain ⟨rfl, rfl⟩ := List.cons.inj he
      rw [List.flatMap_cons, Piece.erased, ← List.append_assoc]
      exact h front body back rfl

theorem areSetOff_comment_iff {body : Text} :
    AreSetOff a (.comment body :: comments) ↔
      IsSetOff a (comments.flatMap Piece.erased) ∧ AreSetOff a comments := by
  constructor
  · intro h
    refine ⟨?_, ?_⟩
    · have hs := h [] body comments rfl
      rwa [List.flatMap_nil, List.append_nil] at hs
    · rintro front body' back rfl
      exact h (.comment body :: front) body' back rfl
  · rintro ⟨hs, h⟩ front body' back he
    cases front with
    | nil =>
      obtain ⟨-, rfl⟩ := List.cons.inj he
      rwa [List.flatMap_nil, List.append_nil]
    | cons piece front =>
      obtain ⟨rfl, rfl⟩ := List.cons.inj he
      exact h front body' back rfl

/-- Behind a comment that is set off it makes no difference whether it is dropped or blanked. -/
theorem areSetOff_spaces_iff (n : Nat) (h : IsSetOff a (comments.flatMap Piece.erased)) :
    AreSetOff (a ++ List.replicate (n + 1) ' ') comments ↔ AreSetOff a comments := by
  have hiff {front back : List Piece} {body : Text} (he : comments = front ++ .comment body :: back) :
      IsSetOff (a ++ List.replicate (n + 1) ' ' ++ front.flatMap Piece.erased)
          (back.flatMap Piece.erased) ↔
        IsSetOff (a ++ front.flatMap Piece.erased) (back.flatMap Piece.erased) := by
    rw [List.append_assoc]
    refine isSetOff_spaces_iff n ?_
    rwa [he, List.flatMap_append, List.flatMap_cons, Piece.erased, List.nil_append] at h
  exact forall_congr' fun front => forall_congr' fun body => forall_congr' fun back =>
    forall_congr' hiff

/-- Blanking comments makes a name no shorter than dropping them, and it leaves the name as it is
exactly when every comment is set off. -/
theorem join_nameParts_blanked (a : Text) (comments : List Piece) :
    (Text.join [','] (nameParts (a ++ comments.flatMap Piece.erased))).length ≤
        (Text.join [','] (nameParts (a ++ comments.flatMap Piece.blanked))).length ∧
      (Text.join [','] (nameParts (a ++ comments.flatMap Piece.blanked)) =
          Text.join [','] (nameParts (a ++ comments.flatMap Piece.erased)) ↔
        AreSetOff a comments) := by
  induction comments generalizing a with
  | nil => exact ⟨Nat.le_refl _, iff_of_true rfl (by simp [AreSetOff])⟩
  | cons piece comments ih =>
    cases piece with
    | plain c =>
      have hih := ih (a ++ [c])
      rw [List.append_assoc, List.append_assoc] at hih
      rw [areSetOff_plain_iff]
      exact hih
    | comment body =>
      obtain ⟨hle, hiff⟩ := ih (a ++ List.replicate (body.length + 3 + 1) ' ')
      rw [List.append_assoc, List.append_assoc] at hle hiff
      have hb : (Piece.comment body).blanked = List.replicate (body.length + 3 + 1) ' ' := rfl
      rw [List.flatMap_cons, List.flatMap_cons, Piece.erased, hb, List.nil_append,
        areSetOff_comment_iff]
      by_cases hs : IsSetOff a (comments.flatMap Piece.erased)
      · rw [nameParts_spaces hs, areSetOff_spaces_iff _ hs] at hiff
        rw [nameParts_spaces hs] at hle
        exact ⟨hle, hiff.trans (and_iff_right hs).symm⟩
      · -- A name with a comment that is not set off grows, and no other comment makes up for it.
        have hl := length_join_nameParts_spaces hs (body.length + 3)
        refine ⟨by omega, iff_of_false (fun he => ?_) fun h => hs h.1⟩
        rw [he] at hle
        omega

-- ---------------------------------------------------------------------------
-- Names of preludes
-- ---------------------------------------------------------------------------

theorem canonicalName_blankComments_iff (h : IsClosed prelude) :
    canonicalName (blankComments prelude) = canonicalName prelude ↔
      AreSetOff [] (pieces prelude) := by
  rw [canonicalName_of_commentless h]
  exact (join_nameParts_blanked [] (pieces prelude)).2

theorem ruleNameUpTo_brace (hc : IsClosed prelude)
    (hb : ∀ c ∈ blankComments prelude, c ≠ '}' ∧ c ≠ ';') :
    ruleNameUpTo (prelude ++ ['{']) prelude.length false = canonicalName (blankComments prelude) := by
  have hblank : blankComments (prelude ++ ['{']) = blankComments prelude ++ ['{'] := by
    rw [blankComments_append hc (by simp), blankComments_cons (by simp), blankComments_nil]
  have hoffset : offset (prelude ++ ['{']) (prelude.length + 1) = (blankComments prelude ++ ['{']).length := by
    rw [offset, if_neg (by omega), List.length_append, length_blankComments]
    rfl
  have hafter : afterRule (blankComments prelude) = blankComments prelude :=
    afterRule_own endsBlock_nil hb
  rw [ruleNameUpTo, hblank, hoffset, List.take_length, beforeBrace?_snoc]
  simp only [Bool.false_eq_true, if_false, hafter]

/-- Comments vanish from the name read in front of a brace exactly when each of them stands beside a
space or at an end of its selector. -/
theorem ruleNameUpTo_brace_iff (hc : IsClosed prelude)
    (hb : ∀ c ∈ blankComments prelude, c ≠ '{' ∧ c ≠ '}' ∧ c ≠ ';' ∧ c ≠ '@') :
    ruleNameUpTo (prelude ++ ['{']) prelude.length false = canonicalName prelude ↔
      ∀ front body back, pieces prelude = front ++ .comment body :: back →
        IsSetOff (front.flatMap Piece.erased) (back.flatMap Piece.erased) := by
  rw [ruleNameUpTo_brace hc fun c hm => ⟨(hb c hm).2.1, (hb c hm).2.2.1⟩,
    canonicalName_blankComments_iff hc]
  rfl

def commentedList : Text := ".a/* one */, /* two */ .b/* three */ .c "

theorem ruleNameUpTo_brace_iff_list :
    IsClosed commentedList ∧
      (∀ c ∈ blankComments commentedList, c ≠ '{' ∧ c ≠ '}' ∧ c ≠ ';' ∧ c ≠ '@') ∧
      (ruleNameUpTo (commentedList ++ ['{']) commentedList.length false =
          canonicalName commentedList ↔
        ∀ front body back, pieces commentedList = front ++ .comment body :: back →
          IsSetOff (front.flatMap Piece.erased) (back.flatMap Piece.erased)) ∧
      ruleNameUpTo (commentedList ++ ['{']) commentedList.length false = ".a,.b .c" := by
  have hc : IsClosed commentedList := by
    rw [IsClosed]
    decide +kernel
  have hb : ∀ c ∈ blankComments commentedList, c ≠ '{' ∧ c ≠ '}' ∧ c ≠ ';' ∧ c ≠ '@' := by
    decide +kernel
  exact ⟨hc, hb, ruleNameUpTo_brace_iff hc hb, by decide +kernel⟩

def commentedCompound : Text := ".a/* b */.c"

/-- A comment inside of a compound selector takes it apart. -/
theorem not_ruleNameUpTo_compound :
    ¬ ∀ prelude, IsClosed prelude →
      (∀ c ∈ blankComments prelude, c ≠ '{' ∧ c ≠ '}' ∧ c ≠ ';' ∧ c ≠ '@') →
        ruleNameUpTo (prelude ++ ['{']) prelude.length false = canonicalName prelude := by
  intro h
  have hc : IsClosed commentedCompound := by
    rw [IsClosed]
    decide +kernel
  have hn : ruleNameUpTo (commentedCompound ++ ['{']) commentedCompound.length false = ".a .c" := by
    decide +kernel
  have he : canonicalName commentedCompound = ".a.c" := by
    decide +kernel
  have hs := h commentedCompound hc (by decide +kernel)
  rw [hn, he] at hs
  exact absurd hs (by decide)

end Retheme.Sheet
