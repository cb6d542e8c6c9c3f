import Retheme.Cascade.Registry
import Retheme.Proofs.Cascade.Filling

/-!
# Namespaces of a registry beside each other

Fallbacks are registered, applied and cleared, in any order. The list of a
namespace is the one it would have if only what names it, or clears all
namespaces, had been done. The maps it names are shared, though, and filling one of
them is seen by every namespace from which it is reached. So an operation that
names another namespace leaves this one alone unless it fills such a map, or is
the one exception: clearing the namespace without characters clears all of them.

Where no map is shared, a registry is a list of data for each namespace, and
applying it is filling data from this list (`Represents`).
-/

namespace Retheme

namespace Entries

variable {α : Type}

theorem get?_erase (key other : Text) (entries : Entries α) :
    get? other (erase key entries) = if key = other then none else get? other entries := by
  induction entries with
  | nil => simp [erase, get?]
  | cons entry rest ih =>
    obtain ⟨k, value⟩ := entry
    rw [erase] at ih ⊢
    by_cases hk : k = key
    · rw [List.filter_cons_of_neg (by simpa using hk), ih, hk]
      split
      · rfl
      · next hne => rw [get?, if_neg hne]
    · rw [List.filter_cons_of_pos (by simpa using hk), get?, get?, ih]
      split
      · next ho => rw [if_neg fun he => hk (ho.trans he.symm)]
      · rfl

end Entries

namespace Cascades

variable {α : Type}

theorem get?_clear (cleared : Option Text) (cascades : Cascades α) (ns : Text) :
    Entries.get? ns (cascades.clear cleared) =
      match cleared with
      | none => none
      | some cleared => if cleared = ns ∨ cleared = [] then none else Entries.get? ns cascades := by
  cases cleared with
  | none => rfl
  | some cleared =>
    cases cleared with
    | nil => simp [clear, Entries.get?]
    | cons c rest => simp [clear, Entries.get?_erase]

theorem get?_register (ns : Text) (fallback : α) (index : Option Int) (cascades : Cascades α)
    (other : Text) :
    Entries.get? other (cascades.register ns fallback index) =
      if ns = other then some (inserted index fallback ((Entries.get? other cascades).getD []))
      else Entries.get? other cascades := by
  rw [register, Entries.get?_set]
  split
  · next h => rw [h]
  · rfl

theorem map_inserted {β : Type} (f : α → β) (index : Option Int) (item : α) (items : List α) :
    (inserted index item items).map f = inserted index (f item) (items.map f) := by
  simp [inserted, insertAt, List.map_take, List.map_drop]

end Cascades

namespace CascadeRegistry

variable {registry after : CascadeRegistry} {ns other : Text} {place target : Place}
  {fields : Place → Entries Item} {fallbacks : List Place} {data : Entries Item}

-- ---------------------------------------------------------------------------
-- Filling a map
-- ---------------------------------------------------------------------------

def filled (ns : Text) (data : Entries Item) (registry : CascadeRegistry) : Entries Item :=
  (registry.listed ns).foldl (fun data fallback => (registry.fields fallback).foldl (fillField ns) data)
    data

/-- The fallbacks of a namespace have something for a field that a map does not have. -/
def Lacks (registry : CascadeRegistry) (ns : Text) (target : Place) : Prop :=
  ∃ fallback ∈ registry.listed ns, ∃ field ∈ registry.fields fallback,
    field.2.isNull = false ∧ field.1 ∉ Entries.keys (registry.fields target)

/-- One map is filled and no other one is changed. That it may be one of the fallbacks makes no
difference: from itself, filled in part or not, nothing is missing. -/
theorem foldl_fill (before : Place → Entries Item)
    (hother : ∀ place, place ≠ target → fields place = before place)
    (htarget : before target <+: fields target) (fallbacks : List Place) (place : Place) :
    fallbacks.foldl (fun fields fallback => fill ns target fallback fields) fields place =
      if place = target then
        fallbacks.foldl (fun data fallback => (before fallback).foldl (fillField ns) data)
          (fields target)
      else fields place := by
  have hpresent : ∀ {pairs data : Entries Item}, pairs <+: data →
      pairs.foldl (fillField ns) data = data := fun hp =>
    Cascades.fillMissing_eq_self fun pair hm => .inr (List.mem_map_of_mem (hp.subset hm))
  induction fallbacks generalizing fields with
  | nil =>
    split
    · next hp => rw [hp, List.foldl_nil, List.foldl_nil]
    · rfl
  | cons fallback fallbacks ih =>
    have hstep : fill ns target fallback fields target =
        (before fallback).foldl (fillField ns) (fields target) := by
      rw [fill, if_pos rfl]
      by_cases hf : fallback = target
      · rw [hf, hpresent List.prefix_rfl, hpresent htarget]
      · rw [hother fallback hf]
    have hkept : ∀ place, place ≠ target → fill ns target fallback fields place = fields place :=
      fun place hp => if_neg hp
    rw [List.foldl_cons, List.foldl_cons, ih (fun place hp => (hkept place hp).trans (hother place hp)),
      hstep]
    · split
      · rfl
      · next hp => exact hkept place hp
    · rw [hstep]
      exact htarget.trans (Cascades.prefix_fillMissing _ _ _ _)

theorem fields_apply (ns : Text) (target : Place) (registry : CascadeRegistry) (place : Place) :
    (registry.apply ns target).fields place =
      if place = target then registry.filled ns (registry.fields target)
      else registry.fields place :=
  foldl_fill registry.fields (fun _ _ => rfl) List.prefix_rfl _ place

theorem filled_eq (ns : Text) (data : Entries Item) (registry : CascadeRegistry) :
    registry.filled ns data =
      ((registry.listed ns).map registry.fields).flatten.foldl (fillField ns) data := by
  rw [filled, List.foldl_flatten, List.foldl_map]

theorem filled_eq_self_iff :
    registry.filled ns (registry.fields target) = registry.fields target ↔
      ¬ registry.Lacks ns target := by
  rw [filled_eq]
  constructor
  · rintro h ⟨fallback, hf, field, hm, hv, hk⟩
    refine hk ?_
    rw [← h]
    exact Cascades.mem_keys_fillMissing
      (List.mem_flatten.mpr ⟨_, List.mem_map_of_mem hf, hm⟩) hv _
  · intro h
    refine Cascades.fillMissing_eq_self fun field hm => ?_
    obtain ⟨_, hl, hm⟩ := List.mem_flatten.mp hm
    obtain ⟨fallback, hf, rfl⟩ := List.mem_map.mp hl
    by_cases hk : field.1 ∈ Entries.keys (registry.fields target)
    · exact .inr hk
    · refine .inl ((Bool.not_eq_false _).mp fun hv => ?_)
      exact h ⟨fallback, hf, field, hm, hv, hk⟩

end CascadeRegistry

-- ---------------------------------------------------------------------------
-- What a namespace sees
-- ---------------------------------------------------------------------------

inductive Item.Mentions (place : Place) : Item → Prop
  | here : Mentions place (.shared place)
  | item {items : List Item} {item : Item} (hm : item ∈ items) (h : Mentions place item) :
      Mentions place (.list items)

namespace CascadeRegistry

/-- A map is registered for a namespace, or stands in a field of a map that is reached. -/
inductive Reaches (registry : CascadeRegistry) (ns : Text) : Place → Prop
  | listed {place : Place} (h : place ∈ registry.listed ns) : Reaches registry ns place
  | inner {place inner : Place} {field : Text × Item} (h : Reaches registry ns place)
      (hm : field ∈ registry.fields place) (hi : field.2.Mentions inner) : Reaches registry ns inner

/-- A namespace has the same list in two registries, of maps with the same content at any depth, and
both fill the same into any data. -/
structure SameFor (ns : Text) (registry after : CascadeRegistry) : Prop where
  listed : Entries.get? ns after.cascades = Entries.get? ns registry.cascades
  fields : ∀ place, registry.Reaches ns place → after.fields place = registry.fields place
  filled : ∀ data, after.filled ns data = registry.filled ns data

theorem SameFor.of_fields (hl : Entries.get? ns after.cascades = Entries.get? ns registry.cascades)
    (hf : ∀ place, registry.Reaches ns place → after.fields place = registry.fields place) :
    SameFor ns registry after := by
  refine ⟨hl, hf, fun data => ?_⟩
  have hlisted : after.listed ns = registry.listed ns := congrArg (Option.getD · []) hl
  have hmaps : (registry.listed ns).map after.fields = (registry.listed ns).map registry.fields :=
    List.map_congr_left fun place hp => hf place (.listed hp)
  rw [filled_eq, filled_eq, hlisted, hmaps]

-- ---------------------------------------------------------------------------
-- Operations
-- ---------------------------------------------------------------------------

inductive Operation where
  | register (ns : Text) (fallback : Place) (index : Option Int)
  | apply (ns : Text) (target : Place)
  | clear (ns : Option Text)

namespace Operation

def perform (registry : CascadeRegistry) : Operation → CascadeRegistry
  | register ns fallback index => registry.register ns fallback index
  | apply ns target => registry.apply ns target
  | clear ns => registry.clear ns

def ns? : Operation → Option Text
  | register ns .. => some ns
  | apply ns _ => some ns
  | clear ns => ns

def concerns (ns : Text) (operation : Operation) : Bool :=
  operation.ns? = some ns || operation matches clear none || operation matches clear (some [])

/-- What an operation makes of the list of one namespace, none when nothing is registered. -/
def onListed (ns : Text) (list : Option (List Place)) : Operation → Option (List Place)
  | register named fallback index =>
    if named = ns then some (Cascades.inserted index fallback (list.getD [])) else list
  | apply .. => list
  | clear none => none
  | clear (some cleared) => if cleared = ns ∨ cleared = [] then none else list

theorem get?_perform (operation : Operation) (registry : CascadeRegistry) (ns : Text) :
    Entries.get? ns (operation.perform registry).cascades =
      operation.onListed ns (Entries.get? ns registry.cascades) := by
  cases operation with
  | register named fallback index => exact Cascades.get?_register named fallback index _ ns
  | apply => rfl
  | clear cleared =>
    rw [perform, CascadeRegistry.clear, Cascades.get?_clear]
    cases cleared <;> rfl

theorem onListed_eq_self {operation : Operation} (h : operation.concerns ns = false)
    (list : Option (List Place)) : operation.onListed ns list = list := by
  cases operation with
  | register named =>
    have hn : named ≠ ns := by simpa [concerns, ns?] using h
    exact if_neg hn
  | apply => rfl
  | clear cleared =>
    cases cleared with
    | none => simp [concerns] at h
    | some cleared =>
      have hn : ¬ (cleared = ns ∨ cleared = []) := by
        rintro (rfl | rfl) <;> simp [concerns, ns?] at h
      exact if_neg hn

theorem concerns_of_ne {operation : Operation} (hn : operation.ns? = some other)
    (h : other ≠ ns) (hc : operation.concerns ns = true) : operation = .clear (some []) := by
  simp only [concerns, hn, Option.some.injEq, h, decide_false, Bool.false_or, Bool.or_eq_true] at hc
  rcases hc with hc | hc
  · split at hc
    · cases hn
    · cases hc
  · split at hc
    · rfl
    · cases hc

end Operation

def run (registry : CascadeRegistry) (operations : List Operation) : CascadeRegistry :=
  operations.foldl Operation.perform registry

/-- Along a run the list of a namespace changes as by the operations that concern it alone. -/
theorem get?_run (registry : CascadeRegistry) (operations : List Operation) (ns : Text) :
    Entries.get? ns (registry.run operations).cascades =
      (operations.filter (·.concerns ns)).foldl (Operation.onListed ns)
        (Entries.get? ns registry.cascades) := by
  induction operations generalizing registry with
  | nil => rfl
  | cons operation operations ih =>
    rw [run, List.foldl_cons, ← run, ih, Operation.get?_perform]
    cases hc : operation.concerns ns with
    | true => rw [List.filter_cons_of_pos hc, List.foldl_cons]
    | false => rw [List.filter_cons_of_neg (by simp [hc]), Operation.onListed_eq_self hc]

theorem get?_run_filter (registry : CascadeRegistry) (operations : List Operation) (ns : Text) :
    Entries.get? ns (registry.run (operations.filter (·.concerns ns))).cascades =
      Entries.get? ns (registry.run operations).cascades := by
  rw [get?_run, get?_run, List.filter_filter]
  simp only [Bool.and_self]

-- ---------------------------------------------------------------------------
-- Namespaces beside each other
-- ---------------------------------------------------------------------------

theorem Operation.fields_perform {operation : Operation}
    (h : ∀ ns target, operation ≠ .apply ns target) (registry : CascadeRegistry) :
    (operation.perform registry).fields = registry.fields := by
  cases operation with
  | register => rfl
  | apply ns target => exact absurd rfl (h ns target)
  | clear => rfl

/-- Filling a map leaves a namespace as it is just when the map is not reached from it or has nothing
to be filled. -/
theorem sameFor_apply_iff :
    SameFor other registry (registry.apply ns target) ↔
      (registry.Reaches other target → ¬ registry.Lacks ns target) := by
  constructor
  · intro hs hr
    have hf := hs.fields target hr
    rw [fields_apply, if_pos rfl] at hf
    exact filled_eq_self_iff.mp hf
  · refine fun h => .of_fields rfl fun place hr => ?_
    rw [fields_apply]
    split
    · next hp =>
      rw [hp] at hr ⊢
      exact filled_eq_self_iff.mpr (h hr)
    · rfl

/-- After any operations on any maps, one that names a namespace leaves every other one as it is
except in two cases: it clears the namespace without characters and something is registered for the
other one, or it fills something into a map that is reached from the other one. Clearing a namespace
leaves nothing for it, and clearing without a namespace leaves nothing for any. Operations that name
other namespaces play no part in the list of a namespace. -/
theorem others_kept_iff (fields : Place → Entries Item) (operations : List Operation)
    (operation : Operation) (hn : operation.ns? = some ns) (h : ns ≠ other) :
    let registry := (initial fields).run operations
    (SameFor other registry (operation.perform registry) ↔
        (operation = .clear (some []) → Entries.get? other registry.cascades = none) ∧
          ∀ target, operation = .apply ns target → registry.Reaches other target →
            ¬ registry.Lacks ns target) ∧
      Entries.get? ns (registry.clear (some ns)).cascades = none ∧
      Entries.get? other (registry.clear none).cascades = none ∧
      Entries.get? other ((initial fields).run (operations.filter (·.concerns other))).cascades =
        Entries.get? other registry.cascades := by
  intro registry
  refine ⟨?_, ?_, ?_, get?_run_filter _ _ _⟩
  · constructor
    · intro hs
      refine ⟨fun he => ?_, fun target he => ?_⟩
      · rw [← hs.listed, he, Operation.get?_perform]
        exact if_pos (.inr rfl)
      · rw [he] at hs
        exact sameFor_apply_iff.mp hs
    · rintro ⟨hclear, happly⟩
      by_cases hfill : ∃ target, operation = .apply ns target
      · obtain ⟨target, rfl⟩ := hfill
        exact sameFor_apply_iff.mpr (happly target rfl)
      · have hfields : (operation.perform registry).fields = registry.fields := by
          refine Operation.fields_perform (fun named target he => hfill ⟨target, ?_⟩) registry
          subst he
          rw [← Option.some.inj hn]
        refine .of_fields ?_ fun place _ => congrFun hfields place
        rw [Operation.get?_perform]
        cases hc : operation.concerns other with
        | false => exact Operation.onListed_eq_self hc _
        | true =>
          have he := Operation.concerns_of_ne hn h hc
          rw [hclear he, he]
          exact if_pos (.inr rfl)
  · rw [clear, Cascades.get?_clear]
    exact if_pos (.inl rfl)
  · rw [clear, Cascades.get?_clear]

def colors (color : Text) : Entries Item := [("fg".toList, .plain (.text color))]

def twoMaps (place : Place) : Entries Item := if place = 0 then colors "red" else colors "blue"

theorem others_kept_iff_cleared :
    let registry := (initial twoMaps).run [.register "demo" 0 none, .register "other" 1 none]
    let operation := Operation.clear (some "demo".toList)
    operation.ns? = some "demo".toList ∧ "demo".toList ≠ "other".toList ∧
      SameFor "other" registry (operation.perform registry) ∧
      Entries.get? "demo" (operation.perform registry).cascades = none := by
  intro registry operation
  have hne : "demo".toList ≠ "other".toList := by decide
  obtain ⟨hkept, hcleared, -⟩ := others_kept_iff twoMaps
    [.register "demo" 0 none, .register "other" 1 none] operation rfl hne
  have hchars : operation ≠ .clear (some []) := by simp [operation]
  exact ⟨rfl, hne, hkept.mpr ⟨fun he => absurd he hchars, nofun⟩, hcleared⟩

/-- Clearing the namespace without characters clears another one. -/
theorem not_others_kept_empty :
    let registry := (initial twoMaps).run [.register "demo" 0 none]
    (registry.listed "demo").map registry.fields = [colors "red"] ∧
      Entries.get? "demo" ((Operation.clear (some [])).perform registry).cascades = none :=
  ⟨rfl, rfl⟩

/-- A map that two namespaces share is filled for both. -/
example :
    let maps (place : Place) : Entries Item := if place = 0 then [] else colors "red"
    let registry := (initial maps).run [.register "demo" 0 none, .register "other" 1 none]
    (registry.filled "demo" [], (registry.apply "other" 0).filled "demo" []) =
      ([], colors "red") := rfl

-- ---------------------------------------------------------------------------
-- Maps that are not shared
-- ---------------------------------------------------------------------------

def plainFields (data : Entries Value) : Entries Item :=
  data.map fun field => (field.1, .plain field.2)

/-- The maps that a registry lists hold the data that are listed in cascades, and no other map. -/
def Represents (registry : CascadeRegistry) (cascades : Cascades) : Prop :=
  ∀ ns, (Entries.get? ns registry.cascades).map (·.map registry.fields) =
    (Entries.get? ns cascades).map (·.map plainFields)

variable {cascades : Cascades}

theorem plainFields_cons (field : Text × Value) (data : Entries Value) :
    plainFields (field :: data) = (field.1, .plain field.2) :: plainFields data := rfl

theorem get?_plainFields (key : Text) (data : Entries Value) :
    Entries.get? key (plainFields data) = (Entries.get? key data).map .plain := by
  induction data with
  | nil => rfl
  | cons field data ih =>
    rw [plainFields_cons, Entries.get?, Entries.get?, ih]
    split <;> rfl

theorem set_plainFields (key : Text) (value : Value) (data : Entries Value) :
    Entries.set key (.plain value) (plainFields data) = plainFields (Entries.set key value data) := by
  induction data with
  | nil => rfl
  | cons field data ih =>
    rw [plainFields_cons, Entries.set, Entries.set, ih]
    split <;> rfl

theorem fillField_plainFields (ns : Text) (data : Entries Value) (field : Text × Value) :
    fillField ns (plainFields data) (field.1, .plain field.2) =
      plainFields (Cascades.fillField ns data field) := by
  have hhas : Entries.has field.1 (plainFields data) = Entries.has field.1 data := by
    rw [Entries.has, Entries.has, get?_plainFields, Option.isSome_map]
  simp only [fillField, Cascades.fillField, Cascades.fillMissing, hhas, Item.isNull]
  split
  · rfl
  · exact set_plainFields _ _ data

theorem foldl_fillField_plainFields (ns : Text) (pairs data : Entries Value) :
    (plainFields pairs).foldl (fillField ns) (plainFields data) =
      plainFields (pairs.foldl (Cascades.fillField ns) data) := by
  induction pairs generalizing data with
  | nil => rfl
  | cons field pairs ih =>
    rw [plainFields_cons, List.foldl_cons, fillField_plainFields, ih]
    rfl

namespace Represents

theorem map_listed (h : Represents registry cascades) (ns : Text) :
    (registry.listed ns).map registry.fields =
      ((Entries.get? ns cascades).getD []).map plainFields := by
  have hm := congrArg (Option.getD · []) (h ns)
  rw [listed]
  cases hr : Entries.get? ns registry.cascades <;> cases hc : Entries.get? ns cascades <;>
    simp_all

theorem register (h : Represents registry cascades) {data : Entries Value}
    (hp : registry.fields place = plainFields data) (ns : Text) (index : Option Int) :
    Represents (registry.register ns place index) (cascades.register ns data index) := by
  intro other
  rw [CascadeRegistry.register, Cascades.get?_register, Cascades.get?_register]
  split
  · have hm := h.map_listed other
    rw [listed] at hm
    simp only [Option.map_some, Cascades.map_inserted, hm, hp]
  · exact h other

theorem clear (h : Represents registry cascades) (ns : Option Text) :
    Represents (registry.clear ns) (cascades.clear ns) := by
  intro other
  rw [CascadeRegistry.clear, Cascades.get?_clear, Cascades.get?_clear]
  cases ns with
  | none => rfl
  | some cleared =>
    dsimp only
    split
    · rfl
    · exact h other

theorem filled (h : Represents registry cascades) (ns : Text) (data : Entries Value) :
    registry.filled ns (plainFields data) = plainFields (cascades.apply ns data) := by
  rw [filled_eq, h.map_listed, Cascades.apply_eq, List.foldl_flatten, List.foldl_flatten]
  generalize (Entries.get? ns cascades).getD [] = fallbacks
  induction fallbacks generalizing data with
  | nil => rfl
  | cons fallback fallbacks ih =>
    rw [List.map_cons, List.foldl_cons, List.foldl_cons, foldl_fillField_plainFields, ih]

/-- Filling a map that is not listed leaves the lists as they are, and its fields are those of its
data after they were filled. -/
theorem apply (h : Represents registry cascades) {data : Entries Value}
    (hp : registry.fields target = plainFields data) (hl : ∀ ns, target ∉ registry.listed ns)
    (ns : Text) :
    Represents (registry.apply ns target) cascades ∧
      (registry.apply ns target).fields target = plainFields (cascades.apply ns data) := by
  refine ⟨fun other => ?_, ?_⟩
  · rw [← h other]
    cases hr : Entries.get? other registry.cascades with
    | none =>
      rw [CascadeRegistry.apply, hr]
      rfl
    | some list =>
      have hkept : ∀ place ∈ list, (registry.apply ns target).fields place = registry.fields place := by
        intro place hm
        rw [fields_apply, if_neg]
        rintro rfl
        exact hl other (by rwa [listed, hr])
      rw [show (registry.apply ns target).cascades = registry.cascades from rfl, hr, Option.map_some,
        Option.map_some, List.map_congr_left hkept]
  · rw [fields_apply, if_pos rfl, hp, h.filled]

end Represents

end CascadeRegistry

end Retheme
