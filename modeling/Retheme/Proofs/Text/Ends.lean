import Mathlib.Data.List.TakeWhile
import Retheme.Text.Basic

/-!
# The ends of a text

The end of a text is taken, dropped and trimmed by a predicate. What lies in
front of a character that fails the predicate plays no part in what is taken.
Trimming does not see characters of the predicate at either end, and keeps a
text whose first and last characters fail it.
-/

namespace Retheme.Text

variable {p : Char → Bool} {a b text : Text} {c : Char}

-- ---------------------------------------------------------------------------
-- The longest front of characters of a kind
-- ---------------------------------------------------------------------------

theorem takeWhile_append_of_head (ha : ∀ c ∈ a, p c) (hb : ∀ c, b.head? = some c → p c = false) :
    (a ++ b).takeWhile p = a ∧ (a ++ b).dropWhile p = b := by
  rw [List.takeWhile_append_of_pos ha, List.dropWhile_append_of_pos ha]
  cases b with
  | nil => simp
  | cons c rest => simp [hb c rfl]

-- ---------------------------------------------------------------------------
-- The longest end of characters of a kind
-- ---------------------------------------------------------------------------

theorem takeEndWhile_append (a : Text) (h : ∀ d ∈ b, p d) :
    takeEndWhile p (a ++ b) = takeEndWhile p a ++ b := by
  have hr : ∀ d ∈ b.reverse, p d := fun d hd => h d (List.mem_reverse.mp hd)
  simp [takeEndWhile, List.takeWhile_append_of_pos hr]

theorem dropEndWhile_append (a : Text) (h : ∀ d ∈ b, p d) :
    dropEndWhile p (a ++ b) = dropEndWhile p a := by
  have hr : ∀ d ∈ b.reverse, p d := fun d hd => h d (List.mem_reverse.mp hd)
  simp [dropEndWhile, List.dropWhile_append_of_pos hr]

theorem dropEndWhile_append_of_exists (a : Text) (h : ∃ c ∈ b, p c = false) :
    dropEndWhile p (a ++ b) = a ++ dropEndWhile p b := by
  have hn : ¬ (b.reverse.dropWhile p).isEmpty := by
    obtain ⟨c, hc, hp⟩ := h
    rw [List.isEmpty_iff, List.dropWhile_eq_nil_iff]
    exact fun h => by simp [h c (List.mem_reverse.mpr hc)] at hp
  rw [dropEndWhile, List.reverse_append, List.dropWhile_append, if_neg hn, List.reverse_append,
    List.reverse_reverse, dropEndWhile]

theorem takeEndWhile_snoc_of_neg (a : Text) (hc : p c = false) : takeEndWhile p (a ++ [c]) = [] := by
  simp [takeEndWhile, hc]

theorem dropEndWhile_snoc_of_neg (a : Text) (hc : p c = false) :
    dropEndWhile p (a ++ [c]) = a ++ [c] := by
  simp [dropEndWhile, hc]

theorem takeEndWhile_append_cons (a : Text) (hc : p c = false) (h : ∀ d ∈ b, p d) :
    takeEndWhile p (a ++ c :: b) = b := by
  rw [List.append_cons, takeEndWhile_append _ h, takeEndWhile_snoc_of_neg a hc, List.nil_append]

theorem dropEndWhile_append_cons (a : Text) (hc : p c = false) (h : ∀ d ∈ b, p d) :
    dropEndWhile p (a ++ c :: b) = a ++ [c] := by
  rw [List.append_cons, dropEndWhile_append _ h, dropEndWhile_snoc_of_neg a hc]

theorem takeEndWhile_append_right (h : ∀ c, a.getLast? = some c → p c = false) (b : Text) :
    takeEndWhile p (a ++ b) = takeEndWhile p b := by
  rcases List.eq_nil_or_concat a with rfl | ⟨front, c, rfl⟩
  · rfl
  · have hc : p c = false := h c (by simp)
    rw [takeEndWhile, takeEndWhile, List.concat_eq_append, List.append_assoc, List.reverse_append,
      List.singleton_append, List.reverse_cons, List.append_assoc, List.takeWhile_append]
    split
    · next hl =>
      rw [(List.takeWhile_prefix p).eq_of_length hl, List.singleton_append,
        List.takeWhile_cons_of_neg (by simp [hc]), List.append_nil]
    · rfl

theorem of_mem_takeEndWhile (h : c ∈ takeEndWhile p text) : p c = true :=
  List.mem_takeWhile_imp (List.mem_reverse.mp h)

theorem exists_last (h : c ∈ text) : ∃ front back, text = front ++ c :: back ∧ c ∉ back := by
  obtain ⟨back, front, ht, hb⟩ := List.eq_append_cons_of_mem (List.mem_reverse.mpr h)
  refine ⟨front.reverse, back.reverse, ?_, fun hm => hb (List.mem_reverse.mp hm)⟩
  rw [← List.reverse_reverse text, ht]
  simp

theorem lastPiece_append_cons (front : Text) (h : c ∉ text) :
    lastPiece c (front ++ c :: text) = text :=
  takeEndWhile_append_cons front (by simp) fun _ hd => bne_iff_ne.mpr fun he => h (he ▸ hd)

-- ---------------------------------------------------------------------------
-- Trimming
-- ---------------------------------------------------------------------------

theorem exists_trim (p : Char → Bool) (text : Text) :
    ∃ front back, text = front ++ (trim p text ++ back) ∧ (∀ c ∈ front, p c = true) ∧
      ∀ c ∈ back, p c = true := by
  refine ⟨text.takeWhile p, takeEndWhile p (text.dropWhile p), ?_, ?_, ?_⟩
  · rw [trim, dropEndWhile_append_takeEndWhile, List.takeWhile_append_dropWhile]
  · exact fun c hc => List.mem_takeWhile_imp hc
  · exact fun c hc => of_mem_takeEndWhile hc

theorem trim_infix (p : Char → Bool) (text : Text) : trim p text <:+: text := by
  obtain ⟨front, back, he, -, -⟩ := exists_trim p text
  exact ⟨front, back, by rw [List.append_assoc, ← he]⟩

theorem head?_trim (h : (trim p text).head? = some c) : p c = false := by
  have hp : trim p text <+: text.dropWhile p :=
    ⟨takeEndWhile p (text.dropWhile p), dropEndWhile_append_takeEndWhile p _⟩
  have hd : (text.dropWhile p).head? = some c := by
    obtain ⟨rest, hr⟩ := List.head?_eq_some_iff.mp h
    obtain ⟨back, hb⟩ := hp
    rw [← hb, hr]
    rfl
  have hn := List.head?_dropWhile_not p text
  rw [hd] at hn
  simpa using hn

theorem getLast?_trim (h : (trim p text).getLast? = some c) : p c = false := by
  rw [trim, dropEndWhile, List.getLast?_reverse] at h
  have hn := List.head?_dropWhile_not p (text.dropWhile p).reverse
  rw [h] at hn
  simpa using hn

theorem trim_cons_of_pos (hc : p c) (text : Text) : trim p (c :: text) = trim p text := by
  rw [trim, List.dropWhile_cons_of_pos hc, trim]

theorem trim_append_left (h : ∀ d ∈ a, p d) (text : Text) : trim p (a ++ text) = trim p text := by
  rw [trim, List.dropWhile_append_of_pos h, trim]

theorem trim_eq_nil (h : ∀ d ∈ text, p d) : trim p text = [] := by
  rw [trim, List.dropWhile_eq_nil_iff.mpr h]
  rfl

theorem trim_append_right (text : Text) (h : ∀ d ∈ b, p d) : trim p (text ++ b) = trim p text := by
  by_cases ht : ∀ d ∈ text, p d
  · rw [trim_eq_nil ht, trim_eq_nil]
    intro d hd
    rcases List.mem_append.mp hd with hd | hd
    · exact ht d hd
    · exact h d hd
  · have hn : ¬ (text.dropWhile p).isEmpty := by
      simpa [List.isEmpty_iff, List.dropWhile_eq_nil_iff] using ht
    rw [trim, List.dropWhile_append, if_neg hn, dropEndWhile_append _ h, trim]

theorem trim_append (ha : ∃ c ∈ a, p c = false) (hb : ∃ c ∈ b, p c = false) :
    trim p (a ++ b) = a.dropWhile p ++ dropEndWhile p b := by
  have hn : ¬ (a.dropWhile p).isEmpty := by
    obtain ⟨c, hc, hp⟩ := ha
    rw [List.isEmpty_iff, List.dropWhile_eq_nil_iff]
    exact fun h => by simp [h c hc] at hp
  rw [trim, List.dropWhile_append, if_neg hn, dropEndWhile_append_of_exists _ hb]

theorem trim_cons_of_neg (hc : p c = false) (text : Text) :
    trim p (c :: text) = dropEndWhile p (c :: text) := by
  rw [trim, List.dropWhile_cons_of_neg (by simp [hc])]

theorem head?_trim_cons (hc : p c = false) (text : Text) : (trim p (c :: text)).head? = some c := by
  rw [trim_cons_of_neg hc, dropEndWhile, List.reverse_cons, List.dropWhile_append]
  split
  · simp [hc]
  · rw [List.reverse_append]
    rfl

theorem trim_eq_self (hh : ∀ d, text.head? = some d → p d = false)
    (hl : ∀ d, text.getLast? = some d → p d = false) : trim p text = text := by
  cases text with
  | nil => rfl
  | cons c rest =>
    rw [trim_cons_of_neg (hh c rfl)]
    rcases List.eq_nil_or_concat (c :: rest) with hn | ⟨front, last, he⟩
    · cases hn
    · rw [List.concat_eq_append] at he
      rw [he]
      exact dropEndWhile_snoc_of_neg front (hl last (by simp [he]))

end Retheme.Text
