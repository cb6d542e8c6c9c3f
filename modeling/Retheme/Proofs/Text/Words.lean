import Retheme.Proofs.Text.Blank

/-!
# Words

A blank keeps the words on both sides of it apart and belongs to none of them.
So it leaves no trace in the words of a text which blanks stand between them,
how many, and whether any stand at the ends.
-/

namespace Retheme.Text

variable {a b gap text : Text} {c : Char} {p : Char → Bool}

theorem words_cons_of_words_eq_nil (hc : isBlank c = false) (hw : words text = []) :
    words (c :: text) = [[c]] := by
  simp [words.eq_def (c :: text), hc, hw]

/-- A blank keeps words apart. All about blanks in a text follows from this. -/
theorem words_append_cons (hc : isBlank c = true) (a b : Text) :
    words (a ++ c :: b) = words a ++ words b := by
  induction a with
  | nil => exact words_of_isBlank hc b
  | cons d a ih =>
    cases hd : isBlank d with
    | true => rw [List.cons_append, words_of_isBlank hd, ih, words_of_isBlank hd]
    | false =>
      cases a with
      | nil =>
        have hb : words (c :: b) = words b := words_of_isBlank hc b
        have hs : words [d] = [[d]] := words_cons_of_words_eq_nil hd rfl
        rw [List.singleton_append, hs]
        cases hw : words b with
        | nil => exact words_cons_of_words_eq_nil hd (hb.trans hw)
        | cons word more => exact (words_cons_cons hd (hb.trans hw)).trans (if_pos hc)
      | cons e a =>
        rw [List.cons_append] at ih
        rw [List.cons_append, List.cons_append]
        cases hw : words (e :: a) with
        | cons word more =>
          rw [hw, List.cons_append] at ih
          rw [words_cons_cons hd ih, words_cons_cons hd hw]
          split <;> rfl
        | nil =>
          -- Nothing but blanks stands between the first character and the words behind.
          have he : isBlank e = true := words_eq_nil_iff.mp hw e List.mem_cons_self
          rw [hw, List.nil_append] at ih
          rw [words_cons_of_words_eq_nil hd hw]
          cases hb : words b with
          | nil => exact words_cons_of_words_eq_nil hd (ih.trans hb)
          | cons word more => exact (words_cons_cons hd (ih.trans hb)).trans (if_pos he)

theorem words_append_left (hg : ∀ c ∈ gap, isBlank c = true) (b : Text) :
    words (gap ++ b) = words b := by
  induction gap with
  | nil => rfl
  | cons c gap ih =>
    rw [List.cons_append, words_of_isBlank (hg c List.mem_cons_self),
      ih fun d hd => hg d (List.mem_cons_of_mem _ hd)]

theorem words_append_gap (hn : gap ≠ []) (hg : ∀ c ∈ gap, isBlank c = true) (a b : Text) :
    words (a ++ (gap ++ b)) = words a ++ words b := by
  obtain ⟨c, more, rfl⟩ := List.exists_cons_of_ne_nil hn
  rw [List.cons_append, words_append_cons (hg c List.mem_cons_self),
    words_append_left fun d hd => hg d (List.mem_cons_of_mem _ hd)]

theorem words_append_right (a : Text) (hg : ∀ c ∈ gap, isBlank c = true) :
    words (a ++ gap) = words a := by
  by_cases hn : gap = []
  · rw [hn, List.append_nil]
  · have h := words_append_gap hn hg a []
    rwa [List.append_nil, words, List.append_nil] at h

theorem words_trim (hp : ∀ c, p c = true → isBlank c = true) (text : Text) :
    words (trim p text) = words text := by
  obtain ⟨front, back, he, hf, hb⟩ := exists_trim p text
  have hw := congrArg words he
  rw [words_append_left fun c hc => hp c (hf c hc),
    words_append_right _ fun c hc => hp c (hb c hc)] at hw
  exact hw.symm

/-- What follows a character matters by its words, and by whether the first of them goes on with the
character. -/
theorem words_cons_congr (hw : words a = words b)
    (hh : words a ≠ [] → a.head?.any isBlank = b.head?.any isBlank) :
    words (c :: a) = words (c :: b) := by
  cases hc : isBlank c with
  | true => rw [words_of_isBlank hc, words_of_isBlank hc, hw]
  | false =>
    cases ha : words a with
    | nil =>
      rw [words_cons_of_words_eq_nil hc ha, words_cons_of_words_eq_nil hc (hw.symm.trans ha)]
    | cons word more =>
      have hb := hw.symm.trans ha
      cases a with
      | nil => cases ha
      | cons d a =>
        cases b with
        | nil => cases hb
        | cons e b =>
          have hde : isBlank d = isBlank e := hh (by rw [ha]; exact List.cons_ne_nil _ _)
          rw [words_cons_cons hc ha, words_cons_cons hc hb, hde]

theorem isSpaced_strip_of_infix (h : a <:+: squeezeBlanks b) : isSpaced a.strip := by
  have hi : a.strip <:+: a := trim_infix _ a
  exact isSpaced_of_infix (hi.trans h) (isSpaced_squeezeBlanks b) fun _ => getLast?_trim

theorem strip_eq_squeezeBlanks (h : isSpaced text.strip) : text.strip = squeezeBlanks text := by
  have hs : squeezeBlanks text.strip = text.strip :=
    squeezeBlanks_eq_self h fun _ hc => head?_trim hc
  rw [← hs, squeezeBlanks, strip, words_trim (fun _ hc => hc), squeezeBlanks]

end Retheme.Text
