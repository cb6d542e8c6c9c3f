import Retheme.Proofs.Text.Ends
import Retheme.Proofs.Text.Split
import Retheme.Text.Blank
import Retheme.Text.Word

/-!
# Blanks and the characters of names

No character of a name is a blank, and none is a mark of punctuation. A text
whose blanks are single spaces between other characters is what its words are
when they are written with one space between them.
-/

namespace Retheme.Text

variable {a b text : Text} {c d : Char}

-- ---------------------------------------------------------------------------
-- Characters of names
-- ---------------------------------------------------------------------------

theorem wordRanges_disjoint : (wordRanges.all fun word => blankRanges.all fun blank =>
    word.2.blt blank.1 || blank.2.blt word.1) = true := by
  decide +kernel

theorem isBlank_of_isWord (h : isWord c = true) : isBlank c = false := by
  rw [Bool.eq_false_iff]
  intro hb
  simp only [isWord, isBlank, List.any_eq_true, Bool.and_eq_true, decide_eq_true_eq] at h hb
  obtain ⟨word, hw, hw'⟩ := h
  obtain ⟨blank, hk, hk'⟩ := hb
  have hd := List.all_eq_true.mp (List.all_eq_true.mp wordRanges_disjoint word hw) blank hk
  simp only [Nat.blt_eq, Bool.or_eq_true] at hd
  omega

theorem isBlank_of_isNameChar (h : isNameChar c = true) : isBlank c = false := by
  rcases (Bool.or_eq_true _ _).mp h with h | h
  · exact isBlank_of_isWord h
  · rw [of_decide_eq_true h]
    rfl

theorem wordRanges_beyond : ((wordRanges.drop 4).all fun word => Nat.ble 0xaa word.1) = true := by
  decide +kernel

theorem isWord_eq_of_lt (h : c.toNat < 0xaa) :
    isWord c = (wordRanges.take 4).any fun (first, last) => first ≤ c.toNat && c.toNat ≤ last := by
  rw [isWord, ← List.take_append_drop 4 wordRanges, List.any_append, List.take_append_drop,
    Bool.or_eq_left_iff_imp, List.any_eq_true]
  rintro ⟨word, hw, hc⟩
  have hb := List.all_eq_true.mp wordRanges_beyond word hw
  simp only [Nat.ble_eq, Bool.and_eq_true, decide_eq_true_eq] at hb hc
  omega

theorem isBlank_of_mem_nil : ∀ c ∈ ([] : Text), isBlank c = true := nofun

theorem isBlank_of_mem_space : ∀ c ∈ [' '], isBlank c = true := by
  decide

def punctuation : Text := "\x7b\x7d[]()/*!:;,.%'\"@#> \n"

theorem isNameChar_of_mem_punctuation : ∀ d ∈ punctuation, isNameChar d = false := by
  intro d hd
  have hl : ∀ d ∈ punctuation, d.toNat < 0xaa ∧ d ≠ '-' ∧
      ¬ (wordRanges.take 4).any (fun (first, last) => first ≤ d.toNat && d.toNat ≤ last) := by
    decide
  obtain ⟨hlt, hne, hw⟩ := hl d hd
  rw [isNameChar, isWord_eq_of_lt hlt, Bool.eq_false_iff.mpr hw]
  simpa using hne

theorem ne_of_isNameChar (h : isNameChar c = true) (hd : d ∈ punctuation) : c ≠ d := by
  rintro rfl
  rw [isNameChar_of_mem_punctuation c hd] at h
  cases h

theorem isNameChar_of_isWord (h : isWord c = true) : isNameChar c = true := by
  simp [isNameChar, h]

theorem removeBlanks_eq_self (h : ∀ c ∈ text, isBlank c = false) : removeBlanks text = text := by
  rw [removeBlanks, List.filter_eq_self]
  exact fun c hc => by simp [h c hc]

-- ---------------------------------------------------------------------------
-- Blanks at the ends
-- ---------------------------------------------------------------------------

theorem exists_strip (text : Text) : ∃ front back, text = front ++ (text.strip ++ back) ∧
    (∀ c ∈ front, isBlank c = true) ∧ ∀ c ∈ back, isBlank c = true :=
  exists_trim isBlank text

theorem strip_strip (text : Text) : text.strip.strip = text.strip := by
  obtain ⟨front, back, he, hf, hb⟩ := exists_strip text
  have h : strip (front ++ (text.strip ++ back)) = text.strip.strip := by
    rw [strip, trim_append_left hf, trim_append_right _ hb, strip, strip]
  rw [← h, ← he]

-- ---------------------------------------------------------------------------
-- Single spaces
-- ---------------------------------------------------------------------------

def isSpaced : Text → Bool
  | [] => true
  | c :: rest => (!isBlank c || (c == ' ' && rest.head?.any (!isBlank ·))) && isSpaced rest

theorem isSpaced_cons (hc : isBlank c = false) (h : isSpaced text) : isSpaced (c :: text) := by
  simp [isSpaced, hc, h]

theorem isSpaced_space (hc : isBlank c = false) (h : isSpaced (c :: text)) :
    isSpaced (' ' :: c :: text) := by
  rw [isSpaced, h]
  simp [hc]

theorem isSpaced_of_not_blank (h : ∀ c ∈ text, isBlank c = false) : isSpaced text := by
  induction text with
  | nil => rfl
  | cons c rest ih =>
    exact isSpaced_cons (h c (by simp)) (ih fun d hd => h d (List.mem_cons_of_mem _ hd))

theorem isSpaced_append (ha : isSpaced a) (hb : isSpaced b) : isSpaced (a ++ b) := by
  induction a with
  | nil => exact hb
  | cons c rest ih =>
    rw [isSpaced, Bool.and_eq_true] at ha
    rw [List.cons_append, isSpaced, ih ha.2, Bool.and_true]
    cases rest with
    | nil => simpa [isSpaced] using Or.inl (by simpa using ha.1)
    | cons => exact ha.1

theorem words_of_isBlank (hc : isBlank c = true) (text : Text) :
    words (c :: text) = words text := by
  simp [words.eq_def (c :: text), hc]

theorem words_cons_cons {word : Text} {more : List Text} (hc : isBlank c = false)
    (hw : words (d :: text) = word :: more) :
    words (c :: d :: text) = if isBlank d then [c] :: word :: more else (c :: word) :: more := by
  simp [words.eq_def (c :: d :: text), hc, hw]

theorem words_eq_nil_iff : words text = [] ↔ ∀ c ∈ text, isBlank c = true := by
  induction text with
  | nil => simp [words]
  | cons c rest ih =>
    cases hc : isBlank c with
    | true => rw [words_of_isBlank hc, ih, List.forall_mem_cons, and_iff_right hc]
    | false =>
      refine iff_of_false (fun hw => ?_) fun h => by simp [h c List.mem_cons_self] at hc
      rw [words.eq_def] at hw
      simp only [hc, Bool.false_eq_true, if_false] at hw
      split at hw
      · split at hw <;> cases hw
      · cases hw

theorem squeezeBlanks_of_isBlank (hc : isBlank c = true) (text : Text) :
    squeezeBlanks (c :: text) = squeezeBlanks text := by
  rw [squeezeBlanks, words_of_isBlank hc, squeezeBlanks]

/-- What stands for the blanks at the start of a text that goes on a line: a space if there are any,
unless the text has nothing else. -/
def blankGap (text : Text) : Text :=
  if text.head?.any isBlank && text.any (!isBlank ·) then [' '] else []

theorem blankGap_eq_nil (h : ∀ c, text.head? = some c → isBlank c = false) :
    blankGap text = [] := by
  cases text with
  | nil => rfl
  | cons c rest => simp [blankGap, h c rfl]

theorem mem_blankGap (h : c ∈ blankGap text) : c = ' ' := by
  rw [blankGap] at h
  split at h
  · exact List.mem_singleton.mp h
  · cases h

theorem squeezeBlanks_cons (hc : isBlank c = false) (text : Text) :
    squeezeBlanks (c :: text) = c :: (blankGap text ++ squeezeBlanks text) := by
  cases text with
  | nil => simp [squeezeBlanks, words, hc, blankGap, join]
  | cons d rest =>
    cases hw : words (d :: rest) with
    | nil =>
      have hb := words_eq_nil_iff.mp hw
      have hg : blankGap (d :: rest) = [] := by
        rw [blankGap, if_neg]
        simpa using fun _ => hb
      have hs : words (c :: d :: rest) = [[c]] := by simp [words.eq_def (c :: d :: rest), hc, hw]
      rw [squeezeBlanks, hs, hg, squeezeBlanks, hw]
      rfl
    | cons word more =>
      have hb : (d :: rest).any (!isBlank ·) = true := by
        have hn : ¬ ∀ e ∈ d :: rest, isBlank e = true := by
          rw [← words_eq_nil_iff, hw]
          exact List.cons_ne_nil _ _
        rw [List.any_eq_true]
        simpa only [not_forall, exists_prop, Bool.not_eq_true, Bool.not_eq_eq_eq_not,
          Bool.not_true] using hn
      rw [squeezeBlanks, words_cons_cons hc hw, squeezeBlanks, hw, blankGap, hb]
      cases hd : isBlank d with
      | true => simp [hd, join]
      | false => cases more <;> simp [hd, join]

theorem squeezeBlanks_append (h : ∃ c, a.getLast? = some c ∧ isBlank c = false) (b : Text) :
    squeezeBlanks (a ++ b) = squeezeBlanks a ++ (blankGap b ++ squeezeBlanks b) := by
  obtain ⟨last, hl, hb⟩ := h
  induction a with
  | nil => cases hl
  | cons c a ih =>
    cases a with
    | nil =>
      obtain rfl : c = last := Option.some.inj hl
      rw [List.singleton_append, squeezeBlanks_cons hb, squeezeBlanks_cons hb]
      rfl
    | cons d a =>
      have ih := ih (by simpa using hl)
      cases hc : isBlank c with
      | true =>
        rw [List.cons_append, squeezeBlanks_of_isBlank hc, ih, squeezeBlanks_of_isBlank hc]
      | false =>
        have hm : last ∈ d :: a := List.mem_of_getLast? (by simpa using hl)
        have hg : blankGap (d :: a ++ b) = blankGap (d :: a) := by
          have ha : (d :: a).any (!isBlank ·) = true :=
            List.any_eq_true.mpr ⟨last, hm, by simp [hb]⟩
          rw [blankGap, List.any_append, ha, blankGap, ha]
          rfl
        rw [List.cons_append, squeezeBlanks_cons hc, ih, hg, squeezeBlanks_cons hc]
        simp

theorem exists_head?_squeezeBlanks (h : ∃ c ∈ text, isBlank c = false) :
    ∃ c, (squeezeBlanks text).head? = some c ∧ isBlank c = false := by
  induction text with
  | nil => simp at h
  | cons c rest ih =>
    cases hc : isBlank c with
    | true =>
      rw [squeezeBlanks_of_isBlank hc]
      exact ih (by simpa [hc] using h)
    | false =>
      rw [squeezeBlanks_cons hc]
      exact ⟨c, rfl, hc⟩

theorem isSpaced_squeezeBlanks (text : Text) : isSpaced (squeezeBlanks text) := by
  induction text with
  | nil => rfl
  | cons c rest ih =>
    cases hc : isBlank c with
    | true => rwa [squeezeBlanks_of_isBlank hc]
    | false =>
      rw [squeezeBlanks_cons hc]
      refine isSpaced_cons hc ?_
      rw [blankGap]
      split
      · next hg =>
        rw [Bool.and_eq_true] at hg
        have hr : ∃ d ∈ rest, isBlank d = false := by simpa using hg.2
        obtain ⟨d, hd, hb⟩ := exists_head?_squeezeBlanks hr
        obtain ⟨more, hm⟩ := List.head?_eq_some_iff.mp hd
        rw [hm] at ih ⊢
        exact isSpaced_space hb ih
      · exact ih

theorem blankGap_append_squeezeBlanks (h : isSpaced text) :
    blankGap text ++ squeezeBlanks text = text := by
  induction text with
  | nil => rfl
  | cons c rest ih =>
    rw [isSpaced, Bool.and_eq_true] at h
    obtain ⟨hc, hr⟩ := h
    cases hb : isBlank c with
    | false =>
      rw [blankGap_eq_nil (by simpa using hb), squeezeBlanks_cons hb, ih hr]
      rfl
    | true =>
      -- The blank is a space, and the character behind it is none.
      obtain ⟨rfl, d, hd, hdb⟩ : c = ' ' ∧ ∃ d, rest.head? = some d ∧ isBlank d = false := by
        simpa [hb, Option.any_eq_true] using hc
      have hg : blankGap (' ' :: rest) = [' '] := by
        rw [blankGap, if_pos]
        simpa [hb] using ⟨d, List.mem_of_head? hd, hdb⟩
      have hn : blankGap rest = [] := blankGap_eq_nil fun e he => by
        rw [hd] at he
        exact Option.some.inj he ▸ hdb
      have hs := ih hr
      rw [hn, List.nil_append] at hs
      rw [hg, squeezeBlanks_of_isBlank hb, hs, List.singleton_append]

theorem squeezeBlanks_eq_self (hs : isSpaced text)
    (hh : ∀ c, text.head? = some c → isBlank c = false) : squeezeBlanks text = text := by
  have h := blankGap_append_squeezeBlanks hs
  rwa [blankGap_eq_nil hh, List.nil_append] at h

-- ---------------------------------------------------------------------------
-- Parts of a text with single spaces
-- ---------------------------------------------------------------------------

theorem isSpaced_of_append_right (h : isSpaced (a ++ b)) : isSpaced b := by
  induction a with
  | nil => exact h
  | cons c a ih =>
    rw [List.cons_append, isSpaced, Bool.and_eq_true] at h
    exact ih h.2

theorem isSpaced_of_append_left (h : isSpaced (a ++ b))
    (hl : ∀ c, a.getLast? = some c → isBlank c = false) : isSpaced a := by
  induction a with
  | nil => rfl
  | cons c a ih =>
    rw [List.cons_append, isSpaced, Bool.and_eq_true] at h
    cases a with
    | nil => exact isSpaced_cons (hl c rfl) rfl
    | cons d a =>
      rw [isSpaced, Bool.and_eq_true]
      exact ⟨h.1, ih h.2 (by simpa using hl)⟩

theorem isSpaced_of_infix (h : a <:+: text) (hs : isSpaced text)
    (hl : ∀ c, a.getLast? = some c → isBlank c = false) : isSpaced a := by
  obtain ⟨front, back, rfl⟩ := h
  rw [List.append_assoc] at hs
  exact isSpaced_of_append_left (isSpaced_of_append_right hs) hl

end Retheme.Text
