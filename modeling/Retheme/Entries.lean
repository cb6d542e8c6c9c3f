import Retheme.Text.Basic

/-!
# Entries

A map that remembers the order of its keys: a list of pairs in which no key is
written twice. Writing a key again replaces its value and keeps its place.
-/

namespace Retheme

abbrev Entries (α : Type) := List (Text × α)

namespace Entries

variable {α : Type}

def get? (key : Text) : Entries α → Option α
  | [] => none
  | (k, value) :: rest => if k = key then some value else get? key rest

def has (key : Text) (entries : Entries α) : Bool := (get? key entries).isSome

/-- A key is written: a new one at the end, a known one in its place. -/
def set (key : Text) (value : α) : Entries α → Entries α
  | [] => [(key, value)]
  | (k, old) :: rest => if k = key then (key, value) :: rest else (k, old) :: set key value rest

def erase (key : Text) (entries : Entries α) : Entries α := entries.filter (·.1 ≠ key)

def keys (entries : Entries α) : List Text := entries.map Prod.fst

def ofPairs (pairs : List (Text × α)) : Entries α :=
  pairs.foldl (fun entries (key, value) => set key value entries) []

@[simp]
theorem get?_set (key other : Text) (value : α) (entries : Entries α) :
    get? other (set key value entries) =
      if key = other then some value else get? other entries := by
  induction entries with
  | nil => simp [set, get?]
  | cons entry rest ih =>
    obtain ⟨k, old⟩ := entry
    simp only [set]
    by_cases hk : k = key
    · subst hk
      simp only [if_true, get?]
      split <;> rfl
    · simp only [hk, if_false, get?, ih]
      by_cases ho : k = other
      · simp [ho]
        intro h
        exact absurd (h ▸ ho) hk
      · simp [ho]

theorem keys_set (key : Text) (value : α) (entries : Entries α) :
    keys (set key value entries) =
      if key ∈ keys entries then keys entries else keys entries ++ [key] := by
  induction entries with
  | nil => simp [set, keys]
  | cons entry rest ih =>
    obtain ⟨k, old⟩ := entry
    simp only [set, keys, List.map_cons, List.mem_cons] at ih ⊢
    by_cases hk : k = key
    · simp [hk]
    · simp only [hk, if_false, List.map_cons, ih, Ne.symm hk, false_or]
      by_cases hm : key ∈ rest.map Prod.fst <;> simp [hm]

@[simp]
theorem keys_cons (entry : Text × α) (entries : Entries α) :
    keys (entry :: entries) = entry.1 :: keys entries := rfl

@[simp]
theorem keys_append (front back : Entries α) : keys (front ++ back) = keys front ++ keys back :=
  List.map_append

theorem has_iff (key : Text) (entries : Entries α) :
    has key entries = true ↔ key ∈ keys entries := by
  induction entries with
  | nil => simp [has, get?, keys]
  | cons entry rest ih =>
    obtain ⟨k, value⟩ := entry
    by_cases hk : k = key
    · simp [has, get?, keys, hk]
    · simpa [has, get?, keys, hk, Ne.symm hk] using ih

theorem get?_eq_none_iff {key : Text} {entries : Entries α} :
    get? key entries = none ↔ key ∉ keys entries := by
  rw [← has_iff, has, Bool.not_eq_true, Option.isSome_eq_false_iff, Option.isNone_iff_eq_none]

theorem get?_append (key : Text) (front back : Entries α) :
    get? key (front ++ back) = (get? key front).or (get? key back) := by
  induction front with
  | nil => rfl
  | cons entry rest ih =>
    obtain ⟨k, value⟩ := entry
    by_cases hk : k = key
    · simp [get?, hk]
    · simp [get?, hk, ih]

theorem set_of_not_mem {key : Text} (value : α) {entries : Entries α} (h : key ∉ keys entries) :
    set key value entries = entries ++ [(key, value)] := by
  induction entries with
  | nil => rfl
  | cons entry rest ih =>
    obtain ⟨k, old⟩ := entry
    simp only [keys, List.map_cons, List.mem_cons, not_or] at h
    simp [set, Ne.symm h.1, ih h.2]

end Entries

end Retheme
