import Retheme.Proofs.Sheet.Comment
import Retheme.Proofs.Text.Blank
import Retheme.Proofs.Text.Ends
import Retheme.Proofs.Text.Nesting
import Retheme.Sheet.Rule

/-!
# Canonical names

A canonical name does not depend on the selector blanks in front of a text, and
it begins with the first character behind them. Any other blank stays.
-/

namespace Retheme.Sheet

variable {text rest : Text} {c : Char}

-- ---------------------------------------------------------------------------
-- Runs of spaces
-- ---------------------------------------------------------------------------

theorem squeezeSpaces_double (rest : Text) :
    squeezeSpaces (' ' :: ' ' :: rest) = squeezeSpaces (' ' :: rest) := by
  rw [squeezeSpaces]

theorem squeezeSpaces_cons (h : c = ' ' → rest.head? ≠ some ' ') :
    squeezeSpaces (c :: rest) = c :: squeezeSpaces rest := by
  rw [squeezeSpaces]
  rintro more rfl rfl
  exact h rfl rfl

theorem head?_squeezeSpaces (text : Text) : (squeezeSpaces text).head? = text.head? := by
  fun_induction squeezeSpaces text with
  | case1 rest ih => exact ih
  | case2 => rfl
  | case3 => rfl

theorem squeezeSpaces_eq_self (h : Text.occursIn [' ', ' '] text = false) :
    squeezeSpaces text = text := by
  induction text with
  | nil => rfl
  | cons c rest ih =>
    rw [Text.occursIn_cons, Bool.or_eq_false_iff] at h
    have hc : c = ' ' → rest.head? ≠ some ' ' := by
      rintro rfl hr
      obtain ⟨more, rfl⟩ := List.head?_eq_some_iff.mp hr
      simp at h
    rw [squeezeSpaces_cons hc, ih h.2]

theorem squeezeSpaces_append (h : text.getLast? = some ' ' → rest.head? ≠ some ' ') :
    squeezeSpaces (text ++ rest) = squeezeSpaces text ++ squeezeSpaces rest := by
  induction text with
  | nil => rfl
  | cons c text ih =>
    by_cases hc : c = ' ' ∧ text.head? = some ' '
    · obtain ⟨rfl, ht⟩ := hc
      obtain ⟨more, rfl⟩ := List.head?_eq_some_iff.mp ht
      rw [List.cons_append, List.cons_append, squeezeSpaces_double, squeezeSpaces_double]
      exact ih (by simpa using h)
    · have hseam : c = ' ' → (text ++ rest).head? ≠ some ' ' := by
        rintro rfl
        cases text with
        | nil => exact h rfl
        | cons d more => exact fun ht => hc ⟨rfl, ht⟩
      have hl : text.getLast? = some ' ' → rest.head? ≠ some ' ' := fun hl =>
        h (by rw [List.getLast?_cons, hl]; rfl)
      rw [List.cons_append, squeezeSpaces_cons hseam, ih hl,
        squeezeSpaces_cons fun he ht => hc ⟨he, ht⟩, List.cons_append]

theorem squeezeSpaces_append_double (text rest : Text) :
    squeezeSpaces (text ++ ' ' :: ' ' :: rest) = squeezeSpaces (text ++ ' ' :: rest) := by
  induction text with
  | nil => exact squeezeSpaces_double rest
  | cons c text ih =>
    have hh : (text ++ ' ' :: ' ' :: rest).head? = (text ++ ' ' :: rest).head? := by
      cases text <;> rfl
    by_cases hc : c = ' ' ∧ (text ++ ' ' :: rest).head? = some ' '
    · obtain ⟨rfl, ht⟩ := hc
      obtain ⟨more, hm⟩ := List.head?_eq_some_iff.mp ht
      obtain ⟨more', hm'⟩ := List.head?_eq_some_iff.mp (hh.trans ht)
      rw [List.cons_append, List.cons_append, hm, hm', squeezeSpaces_double, squeezeSpaces_double,
        ← hm, ← hm', ih]
    · rw [List.cons_append, List.cons_append, squeezeSpaces_cons fun he ht => hc ⟨he, ht⟩,
        squeezeSpaces_cons fun he ht => hc ⟨he, hh.symm.trans ht⟩, ih]

theorem mem_of_mem_squeezeSpaces (h : c ∈ squeezeSpaces text) : c ∈ text := by
  fun_induction squeezeSpaces text with
  | case1 rest ih => exact List.mem_cons_of_mem _ (ih h)
  | case2 d rest hn ih => exact List.mem_cons.mpr ((List.mem_cons.mp h).imp id ih)
  | case3 => exact h

theorem mem_squeezeSpaces (hc : c ≠ ' ') (h : c ∈ text) : c ∈ squeezeSpaces text := by
  fun_induction squeezeSpaces text with
  | case1 rest ih => exact ih ((List.mem_cons.mp h).resolve_left hc)
  | case2 d rest hn ih => exact List.mem_cons.mpr ((List.mem_cons.mp h).imp id ih)
  | case3 => exact h

-- ---------------------------------------------------------------------------
-- Pieces of a name
-- ---------------------------------------------------------------------------

def nameParts (text : Text) : List Text :=
  ((squeezeSpaces text).splitTop ',').map (Text.trim isSelectorBlank)

theorem canonicalName_of_commentless (h : Text.occursIn commentOpen text = false) :
    canonicalName text = Text.join [','] (nameParts text) := by
  rw [canonicalName, eraseComments_eq_self h, nameParts]

theorem isBlank_of_isSelectorBlank (h : isSelectorBlank c = true) : Text.isBlank c = true := by
  simp only [isSelectorBlank, Bool.or_eq_true, decide_eq_true_eq] at h
  rcases h with ((rfl | rfl) | rfl) | rfl <;> decide

theorem isPlain_of_isSelectorBlank (h : isSelectorBlank c = true) :
    Nesting.isPlain .roundSquare (some ',') c = true := by
  simp only [isSelectorBlank, Bool.or_eq_true, decide_eq_true_eq] at h
  rcases h with ((rfl | rfl) | rfl) | rfl <;> decide

theorem splitTop_plain_cons (h : Nesting.isPlain .roundSquare (some ',') c = true) (text : Text) :
    ∃ piece pieces, Text.splitTop ',' text = piece :: pieces ∧
      Text.splitTop ',' (c :: text) = (c :: piece) :: pieces := by
  have hp : Nesting.passes? .roundSquare (some ',') Nesting.top [c] = some Nesting.top :=
    Nesting.passes?_plain (by simpa using h)
  cases hs : Text.splitTop ',' text with
  | nil => exact absurd hs (Nesting.split_ne_nil _ _ _ _)
  | cons piece pieces => exact ⟨piece, pieces, rfl, Nesting.split_append hp hs⟩

theorem map_trim_splitTop_cons (hc : isSelectorBlank c = true) (text : Text) :
    (Text.splitTop ',' (c :: text)).map (Text.trim isSelectorBlank) =
      (Text.splitTop ',' text).map (Text.trim isSelectorBlank) := by
  obtain ⟨piece, pieces, hs, hcs⟩ := splitTop_plain_cons (isPlain_of_isSelectorBlank hc) text
  rw [hcs, hs, List.map_cons, Text.trim_cons_of_pos hc, List.map_cons]

theorem nameParts_cons (hc : isSelectorBlank c = true) (text : Text) :
    nameParts (c :: text) = nameParts text := by
  by_cases hd : c = ' ' ∧ text.head? = some ' '
  · obtain ⟨rfl, ht⟩ := hd
    obtain ⟨rest, rfl⟩ := List.head?_eq_some_iff.mp ht
    rw [nameParts, squeezeSpaces_double, nameParts]
  · rw [nameParts, squeezeSpaces_cons fun he ht => hd ⟨he, ht⟩, map_trim_splitTop_cons hc, nameParts]

theorem nameParts_dropWhile (text : Text) :
    nameParts (text.dropWhile isSelectorBlank) = nameParts text := by
  induction text with
  | nil => rfl
  | cons c rest ih =>
    by_cases hc : isSelectorBlank c = true
    · rw [List.dropWhile_cons_of_pos hc, ih, nameParts_cons hc]
    · rw [List.dropWhile_cons_of_neg hc]

theorem head?_join_nameParts (hc : isSelectorBlank c = false) (rest : Text) :
    (Text.join [','] (nameParts (c :: rest))).head? = some c := by
  have hs : squeezeSpaces (c :: rest) = c :: squeezeSpaces rest :=
    squeezeSpaces_cons fun he => by simp [he, isSelectorBlank] at hc
  rw [nameParts, hs, Text.splitTop, Nesting.split]
  split
  · next h =>
    obtain rfl : c = ',' := by
      simp only [Nesting.separates, Bool.and_eq_true, decide_eq_true_eq] at h
      exact h.1.1.1.1
    have hn := Nesting.split_ne_nil .roundSquare ',' (Nesting.top.after .roundSquare ',')
      (squeezeSpaces rest)
    rw [List.map_cons, Text.join_cons _ _ (by simpa using hn)]
    rfl
  · split
    · rw [List.map_singleton, Text.join_singleton, Text.head?_trim_cons hc]
    · exact Text.head?_join _ (Text.head?_trim_cons hc _)

theorem canonicalName_dropWhile (h : Text.occursIn commentOpen text = false) :
    canonicalName (text.dropWhile isSelectorBlank) = canonicalName text := by
  have hd : Text.occursIn commentOpen (text.dropWhile isSelectorBlank) = false := by
    rw [← List.takeWhile_append_dropWhile (p := isSelectorBlank) (l := text)] at h
    exact Text.occursIn_right_of_append h
  rw [canonicalName_of_commentless h, canonicalName_of_commentless hd, nameParts_dropWhile]

theorem head?_join_nameParts_dropWhile (text : Text) :
    (Text.join [','] (nameParts text)).head? = (text.dropWhile isSelectorBlank).head? := by
  rw [← nameParts_dropWhile]
  cases hd : text.dropWhile isSelectorBlank with
  | nil => rfl
  | cons c rest =>
    have hc : isSelectorBlank c = false := by
      simpa [hd] using List.head_dropWhile_not isSelectorBlank (l := text) (by simp [hd])
    exact head?_join_nameParts hc rest

theorem head?_canonicalName (h : Text.occursIn commentOpen text = false) :
    (canonicalName text).head? = (text.dropWhile isSelectorBlank).head? := by
  rw [canonicalName_of_commentless h, head?_join_nameParts_dropWhile]

end Retheme.Sheet
