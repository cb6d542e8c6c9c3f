import Retheme.Proofs.Sheet.CanonicalName
import Retheme.Proofs.Sheet.Declaration
import Retheme.Proofs.Sheet.RuleName
import Retheme.Proofs.Text.Balance
import Retheme.Proofs.Text.Members
import Retheme.Scope

/-!
# Braces in names

Whatever a style sheet looks like, the name of a rule closes no brace: all that
is searched backwards ends at a closing brace. Canonical forms and scopes keep
it so, and a property has no braces at all.
-/

namespace Retheme

variable {c : Char} {text raw rule theme selector source : Text} {position : Nat}

-- ---------------------------------------------------------------------------
-- Names in a sheet
-- ---------------------------------------------------------------------------

namespace Sheet

theorem mem_of_mem_eraseComments (h : c ∈ eraseComments text) : c ∈ text := by
  obtain ⟨piece, hp, hc⟩ := List.mem_flatMap.mp h
  rw [← flatMap_text_pieces text]
  refine List.mem_flatMap.mpr ⟨piece, hp, ?_⟩
  cases piece with
  | plain => exact hc
  | comment => cases hc

theorem mem_canonicalName (h : c ∈ canonicalName raw) : c = ',' ∨ c ∈ raw := by
  rcases Text.mem_join h with h | ⟨piece, hp, h⟩
  · exact .inl (List.mem_singleton.mp h)
  · obtain ⟨original, ho, rfl⟩ := List.mem_map.mp hp
    exact .inr (mem_of_mem_eraseComments (mem_of_mem_squeezeSpaces
      (Nesting.mem_of_mem_split ho (Text.mem_of_mem_trim h))))

theorem not_mem_canonicalName (h : '}' ∉ raw) : '}' ∉ canonicalName raw := fun hm =>
  (mem_canonicalName hm).elim (by decide) h

theorem not_mem_ruleNameAt (source : Text) (position : Nat) : '}' ∉ ruleNameAt source position := by
  rw [ruleNameAt]
  split
  · exact List.not_mem_nil
  · next text _ =>
    refine not_mem_canonicalName ?_
    split
    · next hi =>
      -- The at-rule around the block was not closed since its at sign.
      obtain ⟨before, after, rfl, -, hc, ha⟩ := insideAtRule_iff.mp hi
      rw [fromAt_append_cons before ha]
      exact List.not_mem_cons_of_ne_of_not_mem (by decide) hc
    · intro hm
      simpa using Text.of_mem_takeEndWhile hm

theorem contextAt_clean (source : Text) (position : Nat) :
    Text.IsBare (contextAt source position).prop ∧ ';' ∉ (contextAt source position).prop ∧
      '}' ∉ (contextAt source position).rule := by
  have hempty : Text.IsBare Context.empty.prop ∧ ';' ∉ Context.empty.prop ∧
      '}' ∉ Context.empty.rule := by
    simp [Context.empty, Text.IsBare]
  rw [contextAt]
  split
  · exact hempty
  · split
    · exact hempty
    · next before after _ =>
      dsimp only
      split
      · exact hempty
      · next hp =>
        have hc : ∀ c ∈ before.removeBlanks, (c ≠ '{' ∧ c ≠ '}') ∧ c ≠ ';' := by
          simpa using (not_or.mp (mt (Bool.or_eq_true _ _).mpr hp)).2
        exact ⟨⟨fun hm => (hc _ hm).1.1 rfl, fun hm => (hc _ hm).1.2 rfl⟩,
          fun hm => (hc _ hm).2 rfl, not_mem_ruleNameAt _ _⟩

end Sheet

-- ---------------------------------------------------------------------------
-- Scoped names
-- ---------------------------------------------------------------------------

namespace Scope

theorem not_mem_className (ht : '}' ∉ theme) : '}' ∉ className theme :=
  List.not_mem_cons_of_ne_of_not_mem (by decide) ht

theorem not_mem_prefixed (hr : '}' ∉ rule) (ht : '}' ∉ theme) : '}' ∉ prefixed rule theme := by
  intro hm
  rcases Text.mem_join hm with hm | ⟨piece, hp, hm⟩
  · exact absurd hm (by decide)
  · obtain ⟨original, ho, rfl⟩ := List.mem_map.mp hp
    rcases List.mem_append.mp hm with hm | hm
    · rcases List.mem_append.mp hm with hm | hm
      · exact not_mem_className ht hm
      · exact absurd hm (by decide)
    · rcases Text.mem_squeezeBlanks (Nesting.mem_of_mem_split ho (Text.mem_of_mem_strip hm)) with
        hm | hm
      · exact absurd hm (by decide)
      · exact hr hm

theorem not_mem_standard (hr : '}' ∉ rule) (ht : '}' ∉ theme) : '}' ∉ standard rule theme := by
  rw [standard]
  split
  · split
    · exact hr
    · next prelude selectors hc =>
      rw [Text.eq_of_cut? hc] at hr
      simp only [List.mem_append, not_or] at hr ⊢
      exact ⟨⟨fun hm => hr.1.1 (Text.mem_of_mem_strip hm), by decide⟩, not_mem_prefixed hr.2 ht⟩
  · exact not_mem_prefixed hr ht

theorem not_mem_custom (mode : ScopeMode) (hr : '}' ∉ rule) (hs : '}' ∉ selector) (ht : '}' ∉ theme) :
    '}' ∉ custom mode rule selector theme := by
  have hc := not_mem_className ht
  intro hm
  rcases Text.mem_replaceFirst hm with hm | hm
  · cases mode <;> simp [combined, hs, hc] at hm
  · exact hr hm

end Scope

end Retheme
