import Retheme.Proofs.File.Tree
import Retheme.Proofs.Text.Utf8

/-!
# Files read as text

A file is read as text when its bytes are those of a text.
-/

namespace Retheme.FileTree

variable {tree : FileTree} {path : FilePath} {bytes : List UInt8} {text : Text} {fault : FileFault}

/-- The bytes of the file at a path, if there are any, are those of a text, and the text has a
property when its lines end with line feeds alone. -/
def HoldsText (tree : FileTree) (path : FilePath) (p : Text → Prop) : Prop :=
  ∀ bytes, tree.read path = .ok bytes → ∃ text : Text, bytes = text.utf8 ∧ p text.normalizeLines

theorem readText_of_utf8 (h : tree.read path = .ok text.utf8) :
    tree.readText path = .ok text.normalizeLines := by
  simp only [readText, h, Text.ofUtf8?_utf8]

theorem readText_cases (tree : FileTree) (path : FilePath) :
    (∃ fault, tree.read path = .error fault ∧ tree.readText path = .error (.file fault)) ∨
      (∃ text : Text, tree.read path = .ok text.utf8 ∧
        tree.readText path = .ok text.normalizeLines) ∨
      ∃ bytes, tree.read path = .ok bytes ∧ (∀ text : Text, bytes ≠ text.utf8) ∧
        tree.readText path = .error .notUtf8 := by
  cases hr : tree.read path with
  | error fault => exact .inl ⟨fault, rfl, by simp only [readText, hr]⟩
  | ok bytes =>
    cases ht : Text.ofUtf8? bytes with
    | some text =>
      obtain rfl := Text.ofUtf8?_eq_some_iff.mp ht
      exact .inr (.inl ⟨text, rfl, readText_of_utf8 hr⟩)
    | none =>
      refine .inr (.inr ⟨bytes, rfl, ?_, by simp only [readText, hr, ht]⟩)
      rintro text rfl
      rw [Text.ofUtf8?_utf8] at ht
      cases ht

theorem holdsText_iff (p : Text → Prop) :
    tree.HoldsText path p ↔
      tree.readText path ≠ .error .notUtf8 ∧ ∀ text, tree.readText path = .ok text → p text := by
  rcases readText_cases tree path with ⟨fault, hr, ht⟩ | ⟨text, hr, ht⟩ | ⟨bytes, hr, hb, ht⟩ <;>
    rw [ht, HoldsText, hr]
  · simp
  · constructor
    · intro h
      obtain ⟨other, ho, hp⟩ := h _ rfl
      have hsame : text = other := by
        have hread := Text.ofUtf8?_utf8 other
        rw [← ho, Text.ofUtf8?_utf8] at hread
        exact Option.some.inj hread
      refine ⟨by simp, ?_⟩
      rintro _ ⟨⟩
      rwa [hsame]
    · rintro ⟨-, hp⟩ _ ⟨⟩
      exact ⟨text, rfl, hp _ rfl⟩
  · refine iff_of_false (fun h => ?_) fun h => h.1 rfl
    obtain ⟨text, he, -⟩ := h _ rfl
    exact hb text he

end Retheme.FileTree
