import Retheme.Proofs.Override.Rendering

/-!
# Stores only grow

What a store has lines for stays where it is when more overrides are recorded:
every line keeps its place, and on it the declarations that are there. A new
declaration stands at the end of its line, and a new line behind all others.
-/

namespace Retheme.OverrideStore

variable {store later last : OverrideStore} {lines others : List Line} {rule : Text}

def Continues (lines others : List Line) : Prop :=
  ∀ (place : Nat) (line : Line), lines[place]? = some line →
    ∃ more, others[place]? = some { line with overrides := line.overrides ++ more }

namespace Continues

theorem refl (lines : List Line) : Continues lines lines :=
  fun _ _ h => ⟨[], by rw [h, List.append_nil]⟩

theorem trans {further : List Line} (h : Continues lines others) (h' : Continues others further) :
    Continues lines further := by
  intro place line hl
  obtain ⟨more, ho⟩ := h place line hl
  obtain ⟨yet, hf⟩ := h' place _ ho
  exact ⟨more ++ yet, by rw [hf, List.append_assoc]⟩

theorem nil (others : List Line) : Continues [] others := by
  intro place line h
  cases h

theorem cons (rule : Text) (overrides more : List Override) (h : Continues lines others) :
    Continues (⟨rule, overrides⟩ :: lines) (⟨rule, overrides ++ more⟩ :: others) := by
  intro place line hl
  cases place with
  | zero =>
    cases hl
    exact ⟨more, rfl⟩
  | succ place => exact h place line hl

end Continues

-- ---------------------------------------------------------------------------
-- One more override
-- ---------------------------------------------------------------------------

theorem exists_firstOfProps_append (seen : List Text) (overrides more : List Override) :
    ∃ added, firstOfProps seen (overrides ++ more) = firstOfProps seen overrides ++ added := by
  induction overrides generalizing seen with
  | nil => exact ⟨_, rfl⟩
  | cons override rest ih =>
    obtain ⟨added, h⟩ := ih seen
    obtain ⟨added', h'⟩ := ih (override.prop :: seen)
    rw [List.cons_append, firstOfProps, firstOfProps]
    split
    · exact ⟨added, h⟩
    · exact ⟨added', by rw [h', List.cons_append]⟩

theorem continues_set {overrides more : List Override} (h : ofRule rule store = overrides) :
    Continues (rows store) (rows (Entries.set rule (overrides ++ more) store)) := by
  induction store with
  | nil => exact .nil _
  | cons entry rest ih =>
    obtain ⟨key, known⟩ := entry
    rw [ofRule, Entries.get?] at h
    rw [Entries.set]
    split at h
    · next hk =>
      obtain ⟨added, ha⟩ := exists_firstOfProps_append [] overrides more
      obtain rfl : known = overrides := h
      rw [if_pos hk, rows_cons, rows_cons, ha, hk]
      exact .cons rule _ added (.refl _)
    · next hk =>
      rw [if_neg hk, rows_cons, rows_cons]
      have hc := Continues.cons key (firstOfProps [] known) [] (ih h)
      rwa [List.append_nil] at hc

/-- Where every line stands is not changed by one more override. -/
theorem continues_record (override : Override) (store : OverrideStore) :
    Continues (rows store) (rows (record override store)) :=
  continues_set rfl

theorem record_ne_nil (override : Override) (store : OverrideStore) :
    record override store ≠ [] := by
  rw [record]
  cases store with
  | nil => exact List.cons_ne_nil _ _
  | cons entry rest =>
    rw [Entries.set]
    split <;> exact List.cons_ne_nil _ _

def recordAll (store : OverrideStore) (records : List Override) : OverrideStore :=
  records.foldl (fun store override => record override store) store

theorem recordAll_append (store : OverrideStore) (records more : List Override) :
    recordAll store (records ++ more) = recordAll (recordAll store records) more :=
  List.foldl_append

theorem continues_recordAll (store : OverrideStore) (records : List Override) :
    Continues (rows store) (rows (recordAll store records)) := by
  induction records generalizing store with
  | nil => exact .refl _
  | cons override records ih => exact (continues_record override store).trans (ih _)

theorem recordAll_grouped (records more : List Override) :
    recordAll (grouped records) more = grouped (records ++ more) := by
  rw [← foldl_record, ← foldl_record, List.foldl_append]
  rfl

def pairs (lines : List Line) : List (Text × Text) :=
  lines.flatMap fun line => line.overrides.map fun override => (line.rule, override.prop)

theorem nodup_pairs_grouped (records : List Override) : (pairs (rows (grouped records))).Nodup := by
  rw [rows_grouped]
  exact nodup_written records

end Retheme.OverrideStore
