import Retheme.Proofs.Number.Comparison
import Retheme.Proofs.Settings.Loading
import Retheme.Proofs.Settings.RoundTrip

/-!
# Settings from data are valid

Whatever the data, the settings had from them have valid texts, and writing them
as data and reading these again changes nothing. The time limit lies within its
bounds unless the data give the double that is no number for it: this lies
neither below nor above anything, so no bound turns it away.
-/

namespace Retheme.Settings

variable {data : Entries Value} {settings : Settings} {value : Value} {limit : Option Float}
  {x : Float}

-- ---------------------------------------------------------------------------
-- Texts
-- ---------------------------------------------------------------------------

def levelNames : List Text :=
  ["DEBUG".toList, "INFO".toList, "WARNING".toList, "ERROR".toList, "CRITICAL".toList]

def isNonemptyText : Value → Bool
  | .text s => !s.isEmpty
  | _ => false

/-- The items of the list of style sheets in data; none when it is missing or no list. -/
def listedSheets (data : Entries Value) : List Value :=
  match Entries.get? "stylesheets".toList data with
  | some (.list items) => items
  | _ => []

/-- The texts of settings are those that may stand in them, and the style sheets are the nonempty
texts that data list, in order. -/
structure HasValidTexts (data : Entries Value) (settings : Settings) : Prop where
  ns : settings.ns ≠ []
  logLevel : settings.logLevel.name ∈ levelNames
  stylesheets : settings.stylesheets.map .text = (listedSheets data).filter isNonemptyText
  nonempty : ∀ sheet ∈ settings.stylesheets, sheet ≠ []
  outputDir : settings.outputDir ≠ some []

theorem map_text_filterMap_nonempty? (items : List Value) :
    (items.filterMap nonempty?).map .text = items.filter isNonemptyText := by
  induction items with
  | nil => rfl
  | cons item items ih =>
    cases hi : nonempty? item with
    | none =>
      have hf : isNonemptyText item = false := by
        cases item with
        | text s =>
          cases s with
          | nil => rfl
          | cons => cases hi
        | _ => rfl
      rw [List.filterMap_cons_none hi, List.filter_cons_of_neg (by simp [hf]), ih]
    | some s =>
      obtain ⟨rfl, hs⟩ := (nonempty?_eq_some_iff item s).mp hi
      have ht : isNonemptyText (.text s) = true := by simpa [isNonemptyText] using hs
      rw [List.filterMap_cons_some hi, List.filter_cons_of_pos ht, List.map_cons, ih]

theorem ne_nil_of_nonempty? {s : Text} (h : nonempty? value = some s) : s ≠ [] :=
  ((nonempty?_eq_some_iff value s).mp h).2

theorem ofData_eq (h : ofData data = .ok settings) :
    let field (name : String) := (Entries.get? name.toList data).getD .null
    ∃ limit, double? (field "fetch_timeout") = .ok limit ∧
      settings = {
        ns := (nonempty? (field "namespace")).getD default.ns
        logLevel := (level? (field "log_level")).getD default.logLevel
        stylesheets := (listedSheets data).filterMap nonempty?
        outputDir := nonempty? (field "output_dir")
        fetchTimeout := timeout limit } := by
  intro field
  simp only [ofData, bind, Except.bind] at h
  split at h
  · cases h
  · next limit hl =>
    cases h
    refine ⟨limit, hl, ?_⟩
    congr 1
    rw [listedSheets]
    cases Entries.get? "stylesheets".toList data with
    | none => rfl
    | some value => cases value <;> rfl

theorem hasValidTexts_of_ofData (h : ofData data = .ok settings) : HasValidTexts data settings := by
  obtain ⟨limit, -, rfl⟩ := ofData_eq h
  refine ⟨?_, ?_, map_text_filterMap_nonempty? _, ?_, ?_⟩
  · dsimp only
    cases hn : nonempty? ((Entries.get? "namespace".toList data).getD .null) with
    | none => decide
    | some s => exact ne_nil_of_nonempty? hn
  · dsimp only
    generalize (level? ((Entries.get? "log_level".toList data).getD .null)).getD default.logLevel =
      level
    cases level <;> decide
  · intro sheet hm
    obtain ⟨item, -, hs⟩ := List.mem_filterMap.mp hm
    exact ne_nil_of_nonempty? hs
  · intro hd
    exact ne_nil_of_nonempty? hd rfl

-- ---------------------------------------------------------------------------
-- The time limit
-- ---------------------------------------------------------------------------

/-- A value is the double that is no number, or a text that names it. -/
def NamesNan (value : Value) : Prop :=
  value = .float Binary64.nan ∨ ∃ s, value = .text s ∧ Decimal.NamesNan s

/-- Data give the double that is no number for the time limit. -/
def LimitedByNan (data : Entries Value) : Prop :=
  ∃ value, Entries.get? "fetch_timeout".toList data = some value ∧ NamesNan value

theorem double?_eq_nan_iff (value : Value) :
    double? value = .ok (some Binary64.nan) ↔ NamesNan value := by
  cases value with
  | number n =>
    cases n with
    | int n =>
      refine iff_of_false ?_ (by simp [NamesNan])
      rw [double?, Number.toFloat]
      intro h
      split at h
      · next x hx =>
        rw [Binary64.ofInt?] at hx
        split at hx
        · cases hx
        · obtain rfl : x = Binary64.nan := by simpa [Except.map] using h
          exact Binary64.shape_nearest_ne_nan _ _ _
            ((congrArg Binary64.shape (Option.some.inj hx)).trans Binary64.shape_nan)
      · cases h
    | float x => simp [double?, Number.toFloat, Except.map, NamesNan]
  | text s => simpa [double?, NamesNan] using Decimal.readFloat?_eq_nan_iff s
  | _ => simp [double?, NamesNan]

theorem limitedByNan_iff :
    LimitedByNan data ↔
      double? ((Entries.get? "fetch_timeout".toList data).getD .null) = .ok (some Binary64.nan) := by
  rw [double?_eq_nan_iff, LimitedByNan]
  cases Entries.get? "fetch_timeout".toList data with
  | none => simp [NamesNan]
  | some value => simp

theorem shape_bounds_ne_nan :
    Binary64.shape minTimeout ≠ .nan ∧ Binary64.shape maxTimeout ≠ .nan ∧
      minTimeout ≤ defaultTimeout ∧ defaultTimeout ≤ maxTimeout := by
  refine ⟨?_, ?_, ?_, ?_⟩ <;> decide +kernel

/-- A time limit is the default or what it was had from, and then no bound is beyond it. -/
theorem timeout_cases (limit : Option Float) :
    timeout limit = defaultTimeout ∧ limit ≠ some Binary64.nan ∨
      ∃ x, limit = some x ∧ timeout limit = x ∧ ¬ x < minTimeout ∧ ¬ maxTimeout < x := by
  cases limit with
  | none => exact .inl ⟨rfl, nofun⟩
  | some x =>
    rw [timeout]
    split
    · next h =>
      refine .inl ⟨rfl, ?_⟩
      rintro ⟨⟩
      revert h
      decide +kernel
    · next h => exact .inr ⟨x, rfl, rfl, by simpa using h⟩

theorem timeout_mem_iff (limit : Option Float) :
    minTimeout ≤ timeout limit ∧ timeout limit ≤ maxTimeout ↔ limit ≠ some Binary64.nan := by
  obtain ⟨hmin, hmax, hlow, hhigh⟩ := shape_bounds_ne_nan
  rcases timeout_cases limit with ⟨ht, hn⟩ | ⟨x, rfl, ht, hl, hu⟩
  · rw [ht]
    exact iff_of_true ⟨hlow, hhigh⟩ hn
  · rw [ht]
    constructor
    · rintro ⟨h, -⟩ ⟨⟩
      exact (Binary64.ne_nan_of_le h).2 Binary64.shape_nan
    · intro hn
      have hx : Binary64.shape x ≠ .nan := fun h => hn (congrArg some (Binary64.eq_nan_of_shape h))
      exact ⟨Binary64.le_of_ne_nan hmin hx hl, Binary64.le_of_ne_nan hx hmax hu⟩

theorem timeout_timeout (limit : Option Float) : timeout (some (timeout limit)) = timeout limit := by
  rcases timeout_cases limit with ⟨ht, -⟩ | ⟨x, rfl, ht, hl, hu⟩
  · rw [ht]
    exact timeout_of_le shape_bounds_ne_nan.2.2.1 shape_bounds_ne_nan.2.2.2
  · rw [ht]
    simp [timeout, hl, hu]

-- ---------------------------------------------------------------------------
-- Settings
-- ---------------------------------------------------------------------------

/-- Settings from any data have valid texts, and data of them give them again, field by field. Their
time limit lies within its bounds exactly when the data do not give the double that is no number for
it. -/
theorem ofData_valid_iff (h : ofData data = .ok settings) :
    HasValidTexts data settings ∧
      (minTimeout ≤ settings.fetchTimeout ∧ settings.fetchTimeout ≤ maxTimeout ↔
        ¬ LimitedByNan data) ∧
      ofData settings.toData = .ok settings := by
  have htexts := hasValidTexts_of_ofData h
  have hagain := ofData_toData_of_nonempty htexts.ns htexts.nonempty htexts.outputDir
  obtain ⟨limit, hl, rfl⟩ := ofData_eq h
  have hnan : LimitedByNan data ↔ limit = some Binary64.nan := by
    rw [limitedByNan_iff, hl, Except.ok.injEq]
  refine ⟨htexts, (timeout_mem_iff limit).trans hnan.not.symm, ?_⟩
  rw [hagain]
  dsimp only
  rw [timeout_timeout]

/-- Data of which every field is of a wrong kind or out of its bounds but the list, and in that one
item. -/
def strayData : Entries Value :=
  [("namespace".toList, .text []), ("log_level".toList, .text "NOPE"),
    ("stylesheets".toList, .list [.text "a.css", .text [], .int 3, .null, .text "b.css"]),
    ("output_dir".toList, .int 42), ("fetch_timeout".toList, .text " 2.5".toList)]

theorem ofData_valid_iff_stray :
    let settings :=
      { default with stylesheets := ["a.css".toList, "b.css".toList], fetchTimeout := 2.5 }
    ofData strayData = .ok settings ∧ HasValidTexts strayData settings ∧
      minTimeout ≤ settings.fetchTimeout ∧ settings.fetchTimeout ≤ maxTimeout := by
  intro settings
  have h : ofData strayData = .ok settings := rfl
  obtain ⟨htexts, hmem, -⟩ := ofData_valid_iff h
  refine ⟨h, htexts, hmem.mpr ?_⟩
  rintro ⟨value, hv, hnan⟩
  obtain rfl : Value.text " 2.5".toList = value := Option.some.inj hv
  rcases hnan with hnan | ⟨s, hs, hname⟩
  · cases hnan
  · cases hs
    revert hname
    decide +kernel

/-- The name of the double that is no number, as a text, is kept as the time limit, which lies
within no bounds. -/
theorem not_valid_nan :
    let data := [("fetch_timeout".toList, Value.text "nan".toList)]
    let settings := { default with fetchTimeout := Binary64.nan }
    ofData data = .ok settings ∧ ¬ minTimeout ≤ settings.fetchTimeout ∧
      ¬ settings.fetchTimeout ≤ maxTimeout := by
  intro data settings
  refine ⟨rfl, ?_, ?_⟩ <;> decide +kernel

end Retheme.Settings
