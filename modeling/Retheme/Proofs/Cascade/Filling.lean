import Retheme.Cascade

/-!
# What a cascade fills in

The fallbacks of a namespace are gone through in the order in which they are
listed, and each of their fields in turn is filled in or passed over. Taken
together, a missing field takes the first value that is not nothing, new fields
stand behind those that were there, and nothing is left to be filled.
-/

namespace Retheme.Cascades

variable {ns field : Text} {data fallback pairs : Entries Value}
  {fallbacks : List (Entries Value)} {value : Value}

-- ---------------------------------------------------------------------------
-- Registered fallbacks
-- ---------------------------------------------------------------------------

/-- A fallback for a namespace, put at an index or behind those that are listed. A fallback is a map
and has no field twice. -/
structure Registration where
  ns : Text
  fallback : Entries Value
  index : Option Int
  distinct : (Entries.keys fallback).Nodup

def registerAll (cascades : Cascades) (calls : List Registration) : Cascades :=
  calls.foldl (fun cascades call => cascades.register call.ns call.fallback call.index) cascades

def Registration.insertInto (list : List (Entries Value)) (call : Registration) :
    List (Entries Value) :=
  match call.index with
  | none => list ++ [call.fallback]
  | some index => insertAt (insertionPlace list.length index) call.fallback list

def listed (ns : Text) (calls : List Registration) : List (Entries Value) :=
  (calls.filter (·.ns = ns)).foldl Registration.insertInto []

theorem Registration.mem_insertInto {call : Registration}
    (h : fallback ∈ call.insertInto fallbacks) : fallback ∈ fallbacks ∨ fallback = call.fallback := by
  simp only [insertInto] at h
  split at h
  · simpa using h
  · next index =>
    simp only [insertAt, List.mem_append, List.mem_cons] at h
    rcases h with h | rfl | h
    · exact .inl (List.mem_of_mem_take h)
    · exact .inr rfl
    · exact .inl (List.mem_of_mem_drop h)

theorem getD_register (call : Registration) (cascades : Cascades) (ns : Text) :
    (Entries.get? ns (cascades.register call.ns call.fallback call.index)).getD [] =
      if call.ns = ns then call.insertInto ((Entries.get? ns cascades).getD [])
      else (Entries.get? ns cascades).getD [] := by
  by_cases hn : call.ns = ns
  · subst hn
    cases hi : call.index <;> simp [register, inserted, Registration.insertInto, insertAt, hi]
  · simp [register, hn]

theorem getD_registerAll (cascades : Cascades) (calls : List Registration) (ns : Text) :
    (Entries.get? ns (registerAll cascades calls)).getD [] =
      (calls.filter (·.ns = ns)).foldl Registration.insertInto
        ((Entries.get? ns cascades).getD []) := by
  induction calls generalizing cascades with
  | nil => rfl
  | cons call calls ih =>
    simp only [registerAll, List.foldl_cons] at ih ⊢
    rw [ih, getD_register]
    by_cases hn : call.ns = ns <;> simp [hn]

theorem distinct_of_mem_listed {calls : List Registration} (h : fallback ∈ listed ns calls) :
    (Entries.keys fallback).Nodup := by
  have hmem (calls : List Registration) (list : List (Entries Value))
      (hl : ∀ fallback ∈ list, (Entries.keys fallback).Nodup) :
      ∀ fallback ∈ calls.foldl Registration.insertInto list, (Entries.keys fallback).Nodup := by
    induction calls generalizing list with
    | nil => exact hl
    | cons call calls ih =>
      refine ih _ ?_
      intro fallback hf
      rcases Registration.mem_insertInto hf with hf | rfl
      · exact hl _ hf
      · exact call.distinct
  exact hmem _ [] nofun fallback h

-- ---------------------------------------------------------------------------
-- One field
-- ---------------------------------------------------------------------------

section Missing

variable {α : Type} {isNull : α → Bool} {fillIn : Text → α → α} {data pairs : Entries α}

theorem fillMissing_cases (isNull : α → Bool) (fillIn : Text → α → α) (data : Entries α)
    (pair : Text × α) :
    (fillMissing isNull fillIn data pair = data ∧
        (isNull pair.2 = true ∨ pair.1 ∈ Entries.keys data)) ∨
      (fillMissing isNull fillIn data pair = data ++ [(pair.1, fillIn pair.1 pair.2)] ∧
        isNull pair.2 = false ∧ pair.1 ∉ Entries.keys data) := by
  rw [fillMissing]
  split
  · next h =>
    rw [Bool.or_eq_true, Entries.has_iff] at h
    exact .inl ⟨rfl, h⟩
  · next h =>
    rw [Bool.or_eq_true, Entries.has_iff, not_or, Bool.not_eq_true] at h
    exact .inr ⟨Entries.set_of_not_mem _ h.2, h⟩

theorem prefix_fillMissing (isNull : α → Bool) (fillIn : Text → α → α) (pairs data : Entries α) :
    data <+: pairs.foldl (fillMissing isNull fillIn) data := by
  induction pairs generalizing data with
  | nil => exact List.prefix_rfl
  | cons pair pairs ih =>
    refine List.IsPrefix.trans ?_ (ih _)
    rcases fillMissing_cases isNull fillIn data pair with ⟨he, -⟩ | ⟨he, -⟩
    · simp [he]
    · simp [he]

theorem fillMissing_eq_self
    (h : ∀ pair ∈ pairs, isNull pair.2 = true ∨ pair.1 ∈ Entries.keys data) :
    pairs.foldl (fillMissing isNull fillIn) data = data := by
  induction pairs with
  | nil => rfl
  | cons pair pairs ih =>
    have hp : fillMissing isNull fillIn data pair = data := by
      rcases fillMissing_cases isNull fillIn data pair with ⟨he, -⟩ | ⟨-, hv, hk⟩
      · exact he
      · exact (h pair (by simp)).elim (by simp [hv]) (absurd · hk)
    rw [List.foldl_cons, hp, ih fun other ho => h other (by simp [ho])]

theorem mem_keys_fillMissing {pair : Text × α} (hp : pair ∈ pairs) (hv : isNull pair.2 = false)
    (data : Entries α) :
    pair.1 ∈ Entries.keys (pairs.foldl (fillMissing isNull fillIn) data) := by
  induction pairs generalizing data with
  | nil => cases hp
  | cons first pairs ih =>
    rcases List.mem_cons.mp hp with rfl | hp
    · rw [List.foldl_cons]
      refine ((prefix_fillMissing isNull fillIn pairs _).sublist.map Prod.fst).subset ?_
      rcases fillMissing_cases isNull fillIn data pair with ⟨he, hn | hk⟩ | ⟨he, -⟩
      · rw [hv] at hn
        cases hn
      · rwa [he]
      · rw [he, List.map_append]
        exact List.mem_concat_self
    · exact ih hp _

end Missing

theorem fillField_cases (ns : Text) (data : Entries Value) (pair : Text × Value) :
    (fillField ns data pair = data ∧ (pair.2.isNull = true ∨ pair.1 ∈ Entries.keys data)) ∨
      (fillField ns data pair = data ++ [(pair.1, filled ns pair.1 pair.2)] ∧
        pair.2.isNull = false ∧ pair.1 ∉ Entries.keys data) :=
  fillMissing_cases Value.isNull (filled ns) data pair

-- ---------------------------------------------------------------------------
-- All fields in order
-- ---------------------------------------------------------------------------

def offered (pairs : Entries Value) : Entries Value := pairs.filter (!·.2.isNull)

theorem offered_cons_of_null (h : value.isNull = true) (key : Text) (pairs : Entries Value) :
    offered ((key, value) :: pairs) = offered pairs := by
  simp [offered, h]

theorem offered_cons (h : value.isNull = false) (key : Text) (pairs : Entries Value) :
    offered ((key, value) :: pairs) = (key, value) :: offered pairs := by
  simp [offered, h]

/-- A field keeps its value, or takes the first one that is offered. -/
theorem get?_fill (ns field : Text) (pairs data : Entries Value) :
    Entries.get? field (pairs.foldl (fillField ns) data) =
      (Entries.get? field data).or
        ((Entries.get? field (offered pairs)).map (filled ns field)) := by
  induction pairs generalizing data with
  | nil => simp [offered, Entries.get?]
  | cons pair pairs ih =>
    obtain ⟨key, value⟩ := pair
    rw [List.foldl_cons, ih]
    rcases fillField_cases ns data (key, value) with ⟨he, hp | hp⟩ | ⟨he, hv, hk⟩
    · rw [he, offered_cons_of_null hp]
    · -- A field that is there hides what is offered for it.
      rw [he]
      by_cases hf : key = field
      · subst hf
        obtain ⟨old, ho⟩ := Option.isSome_iff_exists.mp ((Entries.has_iff _ _).mpr hp)
        simp [ho]
      · cases hv : value.isNull <;> simp [offered, hv, Entries.get?, hf]
    · rw [he, Entries.get?_append, offered_cons hv]
      by_cases hf : key = field
      · subst hf
        simp [Entries.get?_eq_none_iff.mpr hk, Entries.get?]
      · simp [Entries.get?, hf]

/-- New fields stand behind the others, in the order in which they are first offered. -/
theorem keys_fill (ns : Text) (pairs data : Entries Value) :
    Entries.keys (pairs.foldl (fillField ns) data) =
      Entries.keys data ++
        ((Entries.keys (offered pairs)).filter (· ∉ Entries.keys data)).eraseDups := by
  induction pairs generalizing data with
  | nil => simp [offered, Entries.keys]
  | cons pair pairs ih =>
    obtain ⟨key, value⟩ := pair
    rw [List.foldl_cons, ih]
    rcases fillField_cases ns data (key, value) with ⟨he, hp | hp⟩ | ⟨he, hv, hk⟩
    · rw [he, offered_cons_of_null hp]
    · rw [he]
      cases hv : value.isNull with
      | true => rw [offered_cons_of_null hv]
      | false =>
        rw [offered_cons hv, Entries.keys_cons, List.filter_cons_of_neg (by simpa using hp)]
    · -- What is offered for this field later on counted as new before, and counts as present now.
      have hfilter : (Entries.keys (offered pairs)).filter (· ∉ Entries.keys data ++ [key]) =
          ((Entries.keys (offered pairs)).filter (· ∉ Entries.keys data)).filter (! · == key) := by
        rw [List.filter_filter]
        refine List.filter_congr fun other _ => ?_
        by_cases ho : other = key <;> simp [ho]
      have hkeys : Entries.keys (data ++ [(key, filled ns key value)]) =
          Entries.keys data ++ [key] :=
        Entries.keys_append _ _
      rw [he, hkeys, hfilter, offered_cons hv, Entries.keys_cons,
        List.filter_cons_of_pos (by simpa using hk), List.eraseDups_cons, List.append_assoc]
      rfl

theorem fill_fill (ns : Text) (pairs data : Entries Value) :
    pairs.foldl (fillField ns) (pairs.foldl (fillField ns) data) =
      pairs.foldl (fillField ns) data := by
  refine fillMissing_eq_self fun pair hp => ?_
  cases hv : pair.2.isNull with
  | true => exact .inl rfl
  | false => exact .inr (mem_keys_fillMissing hp hv data)

-- ---------------------------------------------------------------------------
-- The cascade as a whole
-- ---------------------------------------------------------------------------

/-- The value of a field in the first fallback that has one and does not hold nothing in it. -/
def firstValue? (field : Text) (fallbacks : List (Entries Value)) : Option Value :=
  fallbacks.findSome? fun fallback => (Entries.get? field fallback).filter (!·.isNull)

theorem get?_offered (h : (Entries.keys fallback).Nodup) (field : Text) :
    Entries.get? field (offered fallback) =
      (Entries.get? field fallback).filter (!·.isNull) := by
  induction fallback with
  | nil => rfl
  | cons pair fallback ih =>
    obtain ⟨key, value⟩ := pair
    rw [Entries.keys_cons, List.nodup_cons] at h
    by_cases hf : key = field
    · subst hf
      cases hv : value.isNull with
      | true =>
        rw [offered_cons_of_null hv, ih h.2, Entries.get?_eq_none_iff.mpr h.1]
        simp [Entries.get?, Option.filter, hv]
      | false => simp [offered_cons hv, Entries.get?, Option.filter, hv]
    · cases hv : value.isNull with
      | true => simp [offered_cons_of_null hv, Entries.get?, hf, ih h.2]
      | false => simp [offered_cons hv, Entries.get?, hf, ih h.2]

theorem get?_offered_flatten (h : ∀ fallback ∈ fallbacks, (Entries.keys fallback).Nodup)
    (field : Text) :
    Entries.get? field (offered fallbacks.flatten) = firstValue? field fallbacks := by
  induction fallbacks with
  | nil => rfl
  | cons fallback fallbacks ih =>
    rw [List.flatten_cons, offered, List.filter_append, Entries.get?_append, firstValue?,
      List.findSome?_cons]
    have hfirst := get?_offered (h fallback (by simp)) field
    have hrest := ih fun other ho => h other (by simp [ho])
    rw [offered] at hfirst hrest
    rw [hfirst, hrest, firstValue?]
    cases (Entries.get? field fallback).filter (!·.isNull) <;> rfl

structure Fills (ns : Text) (fallbacks : List (Entries Value)) (data result : Entries Value) :
    Prop where
  /-- Fields that are there stay as they are, in front of all others. -/
  kept : data <+: result
  /-- New fields come in the order in which a fallback first has something for them. -/
  order : Entries.keys result = Entries.keys data ++
    ((Entries.keys (offered fallbacks.flatten)).filter (· ∉ Entries.keys data)).eraseDups
  /-- A field for which no fallback has anything stays missing. -/
  missing : ∀ field, field ∉ Entries.keys data → firstValue? field fallbacks = none →
    field ∉ Entries.keys result
  filled : ∀ field value, field ∉ Entries.keys data → firstValue? field fallbacks = some value →
    (field = nameField → ∀ name, value ≠ .text name) → Entries.get? field result = some value
  /-- A name that is a text is put under the namespace unless it stands there. -/
  named : ∀ name, nameField ∉ Entries.keys data →
    firstValue? nameField fallbacks = some (.text name) →
      Entries.get? nameField result =
        some (.text (if ns ++ ['-'] <+: name then name else ns ++ '-' :: name))

theorem filled_eq_self (h : field = nameField → ∀ name, value ≠ .text name) :
    filled ns field value = value := by
  cases value with
  | text name =>
    have hf : field ≠ nameField := fun hf => h hf name rfl
    simp [filled, hf]
  | _ => rfl

theorem filled_name (ns name : Text) :
    filled ns nameField (.text name) =
      .text (if ns ++ ['-'] <+: name then name else ns ++ '-' :: name) := by
  by_cases hp : ns ++ ['-'] <+: name
  · simp [filled, hp, List.isPrefixOf_iff_prefix.mpr hp]
  · have hb : (ns ++ ['-']).isPrefixOf name = false := by
      rwa [← Bool.not_eq_true, List.isPrefixOf_iff_prefix]
    simp [filled, hp, hb]

theorem fills_fill (ns : Text) (data : Entries Value)
    (h : ∀ fallback ∈ fallbacks, (Entries.keys fallback).Nodup) :
    Fills ns fallbacks data (fallbacks.flatten.foldl (fillField ns) data) := by
  have hget (field : Text) (hd : field ∉ Entries.keys data) :
      Entries.get? field (fallbacks.flatten.foldl (fillField ns) data) =
        (firstValue? field fallbacks).map (Cascades.filled ns field) := by
    rw [get?_fill, Entries.get?_eq_none_iff.mpr hd, Option.none_or, get?_offered_flatten h]
  constructor
  case kept => exact prefix_fillMissing _ _ _ data
  case order => exact keys_fill ns _ data
  case missing =>
    intro field hd hn
    rw [← Entries.get?_eq_none_iff, hget field hd, hn, Option.map_none]
  case filled =>
    intro field value hd hv ht
    rw [hget field hd, hv, Option.map_some, filled_eq_self ht]
  case named =>
    intro name hd hv
    rw [hget nameField hd, hv, Option.map_some, filled_name]

theorem apply_eq (cascades : Cascades) (ns : Text) (data : Entries Value) :
    cascades.apply ns data =
      ((Entries.get? ns cascades).getD []).flatten.foldl (fillField ns) data := by
  rw [apply, List.foldl_flatten]

/-- Whatever was registered, the cascade of a namespace fills data from the fallbacks it lists, and
what it has filled it leaves as it is. -/
theorem apply_registerAll (ns : Text) (calls : List Registration) (data : Entries Value) :
    Fills ns (listed ns calls) data ((registerAll [] calls).apply ns data) ∧
      (registerAll [] calls).apply ns ((registerAll [] calls).apply ns data) =
        (registerAll [] calls).apply ns data := by
  have hl : (Entries.get? ns (registerAll [] calls)).getD [] = listed ns calls :=
    getD_registerAll [] calls ns
  simp only [apply_eq, hl]
  exact ⟨fills_fill ns data fun _ hf => distinct_of_mem_listed hf, fill_fill ns _ data⟩

/-- A fallback that is put in front comes first, and one that holds nothing in a field leaves it to
the next. -/
example : (registerAll []
      [⟨['d'], [(nameField, .text "red".toList), (['a'], .int 1)], none, by decide⟩,
        ⟨['d'], [(['b'], .null), (['a'], .int 2)], some 0, by decide⟩,
        ⟨['d'], [(['b'], .int 3)], some (-1), by decide⟩]).apply ['d'] [(['c'], .null)] =
    [(['c'], .null), (['a'], .int 2), (['b'], .int 3), (nameField, .text "d-red".toList)] := rfl

end Retheme.Cascades
