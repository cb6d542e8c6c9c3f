import Mathlib.Data.List.Count
import Mathlib.Data.List.Infix
import Retheme.Proofs.Text.Split

/-!
# Balanced braces

In a balanced text no brace closes that is not open, and none stays open. Texts
without braces are balanced, and balanced texts one behind the other. A text
that only opens braces and a balanced one behind it make a balanced text with
as many closing braces as were opened.
-/

namespace Retheme.Text

variable {a b front head body text : Text} {pieces : List Text}

def IsBare (text : Text) : Prop := '{' ∉ text ∧ '}' ∉ text

instance : Decidable (IsBare text) := inferInstanceAs (Decidable (_ ∧ _))

structure Balanced (text : Text) : Prop where
  prefixes : ∀ front, front <+: text → front.count '}' ≤ front.count '{'
  total : text.count '}' = text.count '{'

-- ---------------------------------------------------------------------------
-- Texts without braces
-- ---------------------------------------------------------------------------

theorem IsBare.append (ha : IsBare a) (hb : IsBare b) : IsBare (a ++ b) := by
  simp only [IsBare, List.mem_append, not_or] at *
  exact ⟨⟨ha.1, hb.1⟩, ha.2, hb.2⟩

theorem isBare_join {glue : Text} (hg : IsBare glue) (h : ∀ piece ∈ pieces, IsBare piece) :
    IsBare (join glue pieces) := by
  constructor <;> intro hm <;> rcases mem_join hm with hm | ⟨piece, hp, hm⟩
  · exact hg.1 hm
  · exact (h piece hp).1 hm
  · exact hg.2 hm
  · exact (h piece hp).2 hm

theorem IsBare.balanced (h : IsBare text) : Balanced text := by
  have hc : ∀ front, front <+: text → front.count '}' = 0 := fun front hf =>
    List.count_eq_zero.mpr fun hm => h.2 (hf.subset hm)
  exact ⟨fun front hf => by rw [hc front hf]; exact Nat.zero_le _, by
    rw [hc text (List.prefix_refl _), List.count_eq_zero.mpr h.1]⟩

-- ---------------------------------------------------------------------------
-- Putting texts together
-- ---------------------------------------------------------------------------

theorem ends_within_or_behind (h : front <+: a ++ b) :
    front <+: a ∨ ∃ rest, front = a ++ rest ∧ rest <+: b := by
  obtain ⟨tail, ht⟩ := h
  rcases List.append_eq_append_iff.mp ht with ⟨middle, rfl, -⟩ | ⟨rest, rfl, rfl⟩
  · exact .inl (List.prefix_append front middle)
  · exact .inr ⟨rest, rfl, List.prefix_append rest tail⟩

theorem balanced_nil : Balanced [] := IsBare.balanced ⟨List.not_mem_nil, List.not_mem_nil⟩

theorem Balanced.append (ha : Balanced a) (hb : Balanced b) : Balanced (a ++ b) where
  prefixes front hf := by
    rcases ends_within_or_behind hf with hf | ⟨rest, rfl, hr⟩
    · exact ha.prefixes front hf
    · have := hb.prefixes rest hr
      have := ha.total
      simp only [List.count_append]
      omega
  total := by
    simp only [List.count_append, ha.total, hb.total]

theorem balanced_flatMap {α : Type} {f : α → Text} {list : List α}
    (h : ∀ a ∈ list, Balanced (f a)) : Balanced (list.flatMap f) := by
  induction list with
  | nil => exact balanced_nil
  | cons a list ih =>
    exact (h a List.mem_cons_self).append (ih fun b hb => h b (List.mem_cons_of_mem _ hb))

theorem Balanced.enclosed (hh : '}' ∉ head) (hb : Balanced body) :
    Balanced (head ++ body ++ List.replicate (head.count '{') '}') := by
  have hz : ∀ front, front <+: head → front.count '}' = 0 := fun front hf =>
    List.count_eq_zero.mpr fun hm => hh (hf.subset hm)
  have hhead := hz head (List.prefix_refl head)
  have htotal := hb.total
  constructor
  · intro front hf
    rcases ends_within_or_behind hf with hf | ⟨closing, rfl, hc⟩
    · rcases ends_within_or_behind hf with hf | ⟨rest, rfl, hr⟩
      · rw [hz front hf]
        exact Nat.zero_le _
      · have := hb.prefixes rest hr
        simp only [List.count_append]
        omega
    · obtain ⟨hlen, hc⟩ := List.prefix_replicate_iff.mp hc
      rw [hc]
      simp only [List.count_append, List.count_replicate]
      simp
      omega
  · simp only [List.count_append, List.count_replicate]
    simp
    omega

end Retheme.Text
