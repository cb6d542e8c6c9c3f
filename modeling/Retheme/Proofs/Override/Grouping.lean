import Mathlib.Data.List.Find
import Mathlib.Data.List.Induction
import Mathlib.Data.List.Nodup
import Retheme.Override.Basic

/-!
# Groups of overrides

A store that overrides were recorded in one after the other holds them rule by
rule, in the order of the first of each rule. What is written of a rule is, for
each property in the order of its first record, that first record.
-/

namespace Retheme

-- ---------------------------------------------------------------------------
-- First occurrences
-- ---------------------------------------------------------------------------

section

variable {α β : Type} [BEq α] [LawfulBEq α] [BEq β] [LawfulBEq β]

theorem nodup_eraseDups (list : List α) : list.eraseDups.Nodup := by
  induction hn : list.length using Nat.strongRecOn generalizing list with
  | ind n ih =>
    cases list with
    | nil => exact List.nodup_nil
    | cons a rest =>
      rw [List.eraseDups_cons, List.nodup_cons, List.mem_eraseDups]
      refine ⟨by simp, ih _ ?_ _ rfl⟩
      have := List.length_filter_le (fun b => !b == a) rest
      simp only [List.length_cons] at hn
      omega

theorem eraseDups_append_singleton (list : List α) (a : α) :
    (list ++ [a]).eraseDups =
      if a ∈ list then list.eraseDups else list.eraseDups ++ [a] := by
  rw [List.eraseDups_append]
  split
  · next h => simp [List.removeAll, h]
  · next h => simp [List.removeAll, h, List.eraseDups_cons]

theorem eraseDups_map {f : α → β} {list : List α} (hf : ∀ a ∈ list, ∀ b ∈ list, f a = f b → a = b) :
    (list.map f).eraseDups = list.eraseDups.map f := by
  induction list using List.reverseRecOn with
  | nil => rfl
  | append_singleton list a ih =>
    have hl := ih fun b hb c hc => hf b (List.mem_append_left _ hb) c (List.mem_append_left _ hc)
    have hm : f a ∈ list.map f ↔ a ∈ list := by
      rw [List.mem_map]
      refine ⟨?_, fun h => ⟨a, h, rfl⟩⟩
      rintro ⟨b, hb, he⟩
      rwa [← hf b (List.mem_append_left _ hb) a (by simp) he]
    rw [List.map_append, List.map_singleton, eraseDups_append_singleton,
      eraseDups_append_singleton, hl]
    by_cases ha : a ∈ list
    · rw [if_pos ha, if_pos (hm.mpr ha)]
    · rw [if_neg ha, if_neg fun h => ha (hm.mp h), List.map_append, List.map_singleton]

end

-- ---------------------------------------------------------------------------
-- Entries given by a function
-- ---------------------------------------------------------------------------

namespace Entries

variable {α : Type} {keys : List Text} {key : Text}

theorem get?_map (f : Text → α) (key : Text) (keys : List Text) :
    get? key (keys.map fun k => (k, f k)) = if key ∈ keys then some (f key) else none := by
  induction keys with
  | nil => rfl
  | cons k rest ih =>
    rw [List.map_cons, get?, ih]
    by_cases hk : k = key
    · simp [hk]
    · simp [hk, Ne.symm hk]

theorem set_map_of_not_mem (f : Text → α) (value : α) (h : key ∉ keys) :
    set key value (keys.map fun k => (k, f k)) =
      keys.map (fun k => (k, f k)) ++ [(key, value)] := by
  refine set_of_not_mem value ?_
  simpa [Entries.keys] using h

theorem set_map_of_mem {f g : Text → α} (hn : keys.Nodup) (h : key ∈ keys)
    (hg : ∀ k ∈ keys, k ≠ key → g k = f k) :
    set key (g key) (keys.map fun k => (k, f k)) = keys.map fun k => (k, g k) := by
  induction keys with
  | nil => cases h
  | cons k rest ih =>
    rw [List.nodup_cons] at hn
    rw [List.map_cons, set]
    by_cases hk : k = key
    · subst hk
      have hr : ∀ j ∈ rest, (j, f j) = (j, g j) := by
        intro j hj
        rw [hg j (List.mem_cons_of_mem _ hj) fun he => hn.1 (he ▸ hj)]
      rw [if_pos rfl, List.map_congr_left hr, List.map_cons]
    · have hm : key ∈ rest := (List.mem_cons.mp h).resolve_left (Ne.symm hk)
      rw [if_neg hk, ih hn.2 hm fun j hj => hg j (List.mem_cons_of_mem _ hj), List.map_cons,
        hg k List.mem_cons_self hk]

end Entries

-- ---------------------------------------------------------------------------
-- Overrides by rule and property
-- ---------------------------------------------------------------------------

namespace OverrideStore

def grouped (records : List Override) : OverrideStore :=
  (records.map Override.rule).eraseDups.map fun rule =>
    (rule, records.filter fun override => override.rule = rule)

theorem isEmpty_grouped (records : List Override) : (grouped records).isEmpty = records.isEmpty := by
  cases records with
  | nil => rfl
  | cons override rest => rw [grouped, List.map_cons, List.eraseDups_cons]; rfl

theorem ofRule_grouped (rule : Text) (records : List Override) :
    ofRule rule (grouped records) = records.filter fun override => override.rule = rule := by
  rw [ofRule, grouped, Entries.get?_map]
  simp only [List.mem_eraseDups]
  split
  · rfl
  · next h =>
    symm
    rw [Option.getD_none, List.filter_eq_nil_iff]
    intro override hm he
    exact h (List.mem_map.mpr ⟨override, hm, of_decide_eq_true he⟩)

/-- One more record is kept behind those of its rule, or as a new rule at the end. -/
theorem record_grouped (records : List Override) (override : Override) :
    record override (grouped records) = grouped (records ++ [override]) := by
  have hg : ∀ rule, rule ≠ override.rule →
      (records ++ [override]).filter (fun other => other.rule = rule) =
        records.filter fun other => other.rule = rule := by
    intro rule hr
    simp [List.filter_append, Ne.symm hr]
  have hv : records.filter (fun other => other.rule = override.rule) ++ [override] =
      (records ++ [override]).filter fun other => other.rule = override.rule := by
    simp [List.filter_append]
  rw [record, ofRule_grouped, hv, grouped, grouped, List.map_append, List.map_singleton,
    eraseDups_append_singleton]
  by_cases h : override.rule ∈ records.map Override.rule
  · rw [if_pos h]
    exact Entries.set_map_of_mem
      (g := fun rule => (records ++ [override]).filter fun other => other.rule = rule)
      (nodup_eraseDups _) (List.mem_eraseDups.mpr h) fun rule _ hr => hg rule hr
  · have hk : override.rule ∉ (records.map Override.rule).eraseDups :=
      fun hm => h (List.mem_eraseDups.mp hm)
    rw [if_neg h, Entries.set_map_of_not_mem _ _ hk, List.map_append, List.map_singleton]
    congr 1
    refine List.map_congr_left fun rule hr => ?_
    rw [hg rule fun he => hk (he ▸ hr)]

theorem foldl_record (records : List Override) :
    records.foldl (fun store override => record override store) [] = grouped records := by
  induction records using List.reverseRecOn with
  | nil => rfl
  | append_singleton records override ih =>
    rw [List.foldl_append, ih]
    exact record_grouped records override

/-- The first override of each property, in the order in which the properties first occur. -/
def firsts (overrides : List Override) : List Override :=
  (overrides.map Override.prop).eraseDups.filterMap fun prop =>
    overrides.find? fun override => override.prop = prop

theorem firsts_cons (override : Override) (rest : List Override) :
    firsts (override :: rest) =
      override :: firsts (rest.filter fun other => other.prop ≠ override.prop) := by
  have hm : (rest.map Override.prop).filter (fun prop => !prop == override.prop) =
      (rest.filter fun other => other.prop ≠ override.prop).map Override.prop := by
    rw [List.filter_map]
    congr 1
    exact List.filter_congr fun other _ => by simp [Bool.beq_eq_decide_eq]
  rw [firsts, List.map_cons, List.eraseDups_cons, hm, List.filterMap_cons]
  simp only [List.find?_cons, decide_true]
  rw [firsts]
  congr 1
  -- A property that is left is not the first one, so no override of that one is found for it.
  refine List.filterMap_congr fun prop hp => ?_
  obtain ⟨other, ho, rfl⟩ := List.mem_map.mp (List.mem_eraseDups.mp hp)
  have hne : other.prop ≠ override.prop := of_decide_eq_true (List.mem_filter.mp ho).2
  rw [decide_eq_false (Ne.symm hne), List.find?_filter]
  refine List.find?_congr fun one _ => ?_
  by_cases he : one.prop = other.prop
  · simp [he, hne]
  · simp [he]

theorem firstOfProps_eq (seen : List Text) (overrides : List Override) :
    firstOfProps seen overrides = firsts (overrides.filter fun override => override.prop ∉ seen) := by
  induction overrides generalizing seen with
  | nil => rfl
  | cons override rest ih =>
    rw [firstOfProps]
    split
    · next h => rw [ih, List.filter_cons_of_neg (by simpa using h)]
    · next h =>
      rw [ih, List.filter_cons_of_pos (by simpa using h), firsts_cons, List.filter_filter]
      congr 2
      exact List.filter_congr fun other _ => by simp

theorem firstOfProps_nil (overrides : List Override) : firstOfProps [] overrides = firsts overrides := by
  rw [firstOfProps_eq]
  simp

end OverrideStore

end Retheme
