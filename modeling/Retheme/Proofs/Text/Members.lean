import Mathlib.Data.List.Infix
import Retheme.Proofs.Text.Split
import Retheme.Text.Blank
import Retheme.Text.Nesting

/-!
# Where characters come from

Cutting, trimming and splitting a text leaves no characters but its own, and
putting one text for another adds none but those of the other.
-/

namespace Retheme

variable {c d : Char} {p : Char → Bool} {text piece pattern replacement : Text}

namespace Text

theorem mem_of_mem_dropEndWhile (h : c ∈ dropEndWhile p text) : c ∈ text :=
  List.mem_reverse.mp ((List.dropWhile_suffix p).subset (List.mem_reverse.mp h))

theorem mem_of_mem_trim (h : c ∈ trim p text) : c ∈ text :=
  (List.dropWhile_suffix p).subset (mem_of_mem_dropEndWhile h)

theorem mem_of_mem_strip (h : c ∈ strip text) : c ∈ text := mem_of_mem_trim h

theorem mem_of_mem_words (h : piece ∈ words text) (hc : c ∈ piece) : c ∈ text := by
  induction text generalizing piece with
  | nil => cases h
  | cons d rest ih =>
    -- The first word begins with the first character, or is this character alone.
    have hfirst {word : Text} (hp : piece = d :: word) (hw : c ∈ word → c ∈ rest) :
        c ∈ d :: rest := by
      rw [hp] at hc
      exact List.mem_cons.mpr ((List.mem_cons.mp hc).imp id hw)
    rw [words.eq_def] at h
    dsimp only at h
    split at h
    · exact List.mem_cons_of_mem _ (ih h hc)
    · split at h
      · next next tail word more hw =>
        split at h <;> rcases List.mem_cons.mp h with h | h
        · exact hfirst h nofun
        · exact List.mem_cons_of_mem _ (ih (hw ▸ h) hc)
        · exact hfirst h (ih (hw ▸ List.mem_cons_self))
        · exact List.mem_cons_of_mem _ (ih (hw ▸ List.mem_cons_of_mem _ h) hc)
      · rcases List.mem_cons.mp h with h | h
        · exact hfirst h nofun
        · exact List.mem_cons_of_mem _ (ih h hc)

theorem mem_squeezeBlanks (h : c ∈ squeezeBlanks text) : c = ' ' ∨ c ∈ text := by
  rcases mem_join h with h | ⟨word, hw, h⟩
  · exact .inl (List.mem_singleton.mp h)
  · exact .inr (mem_of_mem_words hw h)

theorem mem_replaceFirst (h : c ∈ replaceFirst pattern replacement text) :
    c ∈ replacement ∨ c ∈ text := by
  rw [replaceFirst] at h
  split at h
  · next before after hc =>
    rw [eq_of_cut? hc]
    simp only [List.mem_append] at h ⊢
    rcases h with (h | h) | h
    · exact .inr (.inl (.inl h))
    · exact .inl h
    · exact .inr (.inr h)
  · exact .inr h

end Text

theorem Nesting.mem_of_mem_split {brackets : Brackets} {separator : Char} {nesting : Nesting}
    (h : piece ∈ nesting.split brackets separator text) (hc : c ∈ piece) : c ∈ text := by
  induction text generalizing nesting piece with
  | nil =>
    rw [List.mem_singleton.mp h] at hc
    cases hc
  | cons d rest ih =>
    rw [split] at h
    split at h
    · rcases List.mem_cons.mp h with rfl | h
      · cases hc
      · exact List.mem_cons_of_mem _ (ih h hc)
    · split at h
      · next hs => exact absurd hs (split_ne_nil _ _ _ _)
      · next first more hs =>
        rcases List.mem_cons.mp h with rfl | h
        · rcases List.mem_cons.mp hc with rfl | hc
          · exact List.mem_cons_self
          · exact List.mem_cons_of_mem _ (ih (hs ▸ List.mem_cons_self) hc)
        · exact List.mem_cons_of_mem _ (ih (hs ▸ List.mem_cons_of_mem _ h) hc)

end Retheme
