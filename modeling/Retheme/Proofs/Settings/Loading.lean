import Retheme.Proofs.File.Text
import Retheme.Proofs.Json.Consumed
import Retheme.Proofs.Value.Writing
import Retheme.Settings

/-!
# Which files settings are loaded from

A file that is missing or cannot be read gives the default settings, as does
one that holds no map in JSON; of a map every field gives its value, or its
default when the value is not valid. Four things are not caught: a way to the file
that is closed or too long, bytes that are no text, an integer with too many digits
anywhere, and an integer beyond the doubles for the time limit.
-/

namespace Retheme.Settings

variable {data : Entries Value} {settings : Settings} {text : Text} {value : Value}

-- ---------------------------------------------------------------------------
-- Fields
-- ---------------------------------------------------------------------------

/-- How a field is read: the value in the data gives something valid, or the field has its
default. -/
def FieldOr {α : Type} (value? : Option Value) (valid : Value → α → Prop) (fallback got : α) : Prop :=
  (∃ value, value? = some value ∧ valid value got) ∨
    got = fallback ∧ ∀ value other, value? = some value → ¬ valid value other

structure ReadFrom (data : Entries Value) (settings : Settings) : Prop where
  ns : FieldOr (Entries.get? "namespace".toList data)
    (fun value ns => value = .text ns ∧ ns ≠ []) default.ns settings.ns
  logLevel : FieldOr (Entries.get? "log_level".toList data)
    (fun value level => value = .text level.name) default.logLevel settings.logLevel
  -- Of a list the items that are no nonempty texts are left out.
  stylesheets : FieldOr (Entries.get? "stylesheets".toList data)
    (fun value sheets => ∃ items, value = .list items ∧ sheets = items.filterMap nonempty?)
    default.stylesheets settings.stylesheets
  outputDir : FieldOr (Entries.get? "output_dir".toList data)
    (fun value directory => ∃ s, value = .text s ∧ s ≠ [] ∧ directory = some s)
    default.outputDir settings.outputDir
  fetchTimeout : FieldOr (Entries.get? "fetch_timeout".toList data)
    (fun value x => double? value = .ok (some x) ∧ ¬ x < minTimeout ∧ ¬ maxTimeout < x)
    default.fetchTimeout settings.fetchTimeout

theorem fieldOr_getD {α : Type} {valid : Value → α → Prop} (value? : Option Value)
    (read : Value → Option α) (fallback : α) (hnull : read .null = none)
    (h : ∀ value got, read value = some got ↔ valid value got) :
    FieldOr value? valid fallback ((read (value?.getD .null)).getD fallback) := by
  cases value? with
  | none =>
    rw [Option.getD_none, hnull]
    exact .inr ⟨rfl, by simp⟩
  | some value =>
    rw [Option.getD_some]
    cases hr : read value with
    | some got => exact .inl ⟨value, rfl, (h value got).mp hr⟩
    | none =>
      refine .inr ⟨rfl, ?_⟩
      rintro _ other ⟨⟩ hv
      rw [(h value other).mpr hv] at hr
      cases hr

theorem nonempty?_eq_some_iff (value : Value) (s : Text) :
    nonempty? value = some s ↔ value = .text s ∧ s ≠ [] := by
  cases value with
  | text t =>
    cases t with
    | nil =>
      refine iff_of_false (by simp [nonempty?]) ?_
      rintro ⟨⟨⟩, h⟩
      exact h rfl
    | cons c rest =>
      constructor
      · rintro ⟨⟩
        exact ⟨rfl, by simp⟩
      · rintro ⟨⟨⟩, -⟩
        rfl
  | _ => simp [nonempty?]

theorem map_some_nonempty? (value : Value) (directory : Option Text) :
    (nonempty? value).map some = some directory ↔
      ∃ s, value = .text s ∧ s ≠ [] ∧ directory = some s := by
  rw [Option.map_eq_some_iff]
  constructor
  · rintro ⟨s, hs, rfl⟩
    obtain ⟨rfl, hne⟩ := (nonempty?_eq_some_iff value s).mp hs
    exact ⟨s, rfl, hne, rfl⟩
  · rintro ⟨s, rfl, hne, rfl⟩
    exact ⟨s, (nonempty?_eq_some_iff _ s).mpr ⟨rfl, hne⟩, rfl⟩

theorem level?_eq_some_iff (value : Value) (level : Level) :
    level? value = some level ↔ value = .text level.name := by
  cases value with
  | text name =>
    constructor
    · intro h
      have hn := List.find?_some h
      rw [of_decide_eq_true hn]
    · rintro ⟨⟩
      cases level <;> rfl
  | _ => simp [level?]

theorem double?_isOk_iff (value : Value) :
    (∃ x, double? value = .ok x) ↔ ∀ n, value = .int n → n.natAbs < Binary64.range := by
  have hok : ∀ number : Number, (∃ x, (number.toFloat.map some) = .ok x) ↔
      number.toFloat.isOk = true := by
    intro number
    cases number.toFloat <;> simp [Except.map, Except.isOk, Except.toBool]
  cases value with
  | number number =>
    rw [double?, hok]
    cases number with
    | int n =>
      rw [Value.toFloat_isOk_iff]
      constructor
      · rintro h m ⟨⟩
        exact h
      · exact fun h => h n rfl
    | float x => exact iff_of_true rfl (by simp)
  | text s => exact iff_of_true ⟨_, rfl⟩ (by simp)
  | _ => exact iff_of_true ⟨none, rfl⟩ (by simp)

def sheets? : Value → Option (List Text)
  | .list items => some (items.filterMap nonempty?)
  | _ => none

theorem sheets?_eq_some_iff (value : Value) (sheets : List Text) :
    sheets? value = some sheets ↔
      ∃ items, value = .list items ∧ sheets = items.filterMap nonempty? := by
  cases value with
  | list items => simp [sheets?, eq_comm]
  | _ => simp [sheets?]

def limit? (value : Value) : Option Float :=
  match double? value with
  | .ok (some x) => if x < minTimeout || maxTimeout < x then none else some x
  | _ => none

theorem limit?_eq_some_iff (value : Value) (x : Float) :
    limit? value = some x ↔ double? value = .ok (some x) ∧ ¬ x < minTimeout ∧ ¬ maxTimeout < x := by
  rw [limit?]
  cases double? value with
  | error failure => simp
  | ok found =>
    cases found with
    | none => simp
    | some y =>
      simp only [Except.ok.injEq, Option.some.injEq]
      constructor
      · intro h
        split at h
        · cases h
        · next hy =>
          cases h
          simpa using hy
      · rintro ⟨rfl, hlow, hhigh⟩
        simp [hlow, hhigh]

theorem timeout_eq {limit : Option Float} (h : double? value = .ok limit) :
    timeout limit = (limit? value).getD defaultTimeout := by
  rw [limit?, h]
  cases limit with
  | none => rfl
  | some x =>
    simp only [timeout]
    split <;> rfl

-- ---------------------------------------------------------------------------
-- Data
-- ---------------------------------------------------------------------------

/-- The time limit has a double, or is no number. -/
def Limited (data : Entries Value) : Prop :=
  ∀ n, Entries.get? "fetch_timeout".toList data = some (.int n) → n.natAbs < Binary64.range

theorem ofData_isOk_iff (data : Entries Value) :
    (∃ settings, ofData data = .ok settings) ↔ Limited data := by
  have hvalue : (∀ n, (Entries.get? "fetch_timeout".toList data).getD .null = .int n →
      n.natAbs < Binary64.range) ↔ Limited data := by
    rw [Limited]
    cases Entries.get? "fetch_timeout".toList data <;> simp
  rw [← hvalue, ← double?_isOk_iff, ofData]
  generalize double? ((Entries.get? "fetch_timeout".toList data).getD .null) = limit
  cases limit <;> simp [bind, Except.bind, pure, Except.pure]

theorem readFrom_of_ofData (h : ofData data = .ok settings) : ReadFrom data settings := by
  simp only [ofData, bind, Except.bind] at h
  split at h
  · cases h
  · next limit hl =>
    cases h
    refine ⟨?_, ?_, ?_, ?_, ?_⟩
    · exact fieldOr_getD _ nonempty? _ rfl nonempty?_eq_some_iff
    · exact fieldOr_getD _ level? _ rfl level?_eq_some_iff
    · have hsheets := fieldOr_getD (Entries.get? "stylesheets".toList data) sheets?
        default.stylesheets rfl sheets?_eq_some_iff
      convert hsheets using 1
      dsimp only
      generalize (Entries.get? "stylesheets".toList data).getD .null = value
      cases value <;> rfl
    · have hdir := fieldOr_getD (Entries.get? "output_dir".toList data)
        (fun value => (nonempty? value).map some) default.outputDir rfl map_some_nonempty?
      convert hdir using 1
      dsimp only
      generalize nonempty? ((Entries.get? "output_dir".toList data).getD .null) = directory
      cases directory <;> rfl
    · rw [timeout_eq hl]
      exact fieldOr_getD _ limit? _ rfl limit?_eq_some_iff

-- ---------------------------------------------------------------------------
-- Texts
-- ---------------------------------------------------------------------------

/-- A text is read as settings: no integer in it is too long, and the time limit of a map has a
double. -/
structure Loadable (text : Text) : Prop where
  short : Json.read text ≠ .error .tooManyDigits
  limited : ∀ data, Json.read text = .ok (.map data) → Limited data

theorem loadable_of_not_holdsLongRun {text : Text} (hs : ¬ Json.HoldsLongRun text)
    (hl : ∀ data, Json.read text = .ok (.map data) → Limited data) : Loadable text :=
  ⟨fun h => hs (Json.holdsLongRun_of_readWith _ h), hl⟩

theorem ofText_isOk_iff (text : Text) : (∃ settings, ofText text = .ok settings) ↔ Loadable text := by
  rw [ofText.eq_def]
  split
  · next h => exact iff_of_true ⟨_, rfl⟩ ⟨by simp [h], by simp [h]⟩
  · next h => exact iff_of_false (by simp) fun hl => hl.short h
  · next data h =>
    have hload : Loadable text ↔ Limited data :=
      ⟨fun hl => hl.limited data h, fun hl => ⟨by simp [h], by simpa [h] using hl⟩⟩
    rw [hload, ← ofData_isOk_iff]
    cases ofData data <;> simp
  · next value hmap h =>
    exact iff_of_true ⟨_, rfl⟩ ⟨by simp [h], fun data hd => absurd (h.symm.trans hd) (by simpa using hmap data)⟩

theorem readFrom_of_ofText (h : ofText text = .ok settings) :
    (∃ data, Json.read text = .ok (.map data) ∧ ReadFrom data settings) ∨
      (∀ data, Json.read text ≠ .ok (.map data)) ∧ settings = default := by
  rw [ofText.eq_def] at h
  split at h
  · next hr =>
    cases h
    exact .inr ⟨by simp [hr], rfl⟩
  · cases h
  · next data hr =>
    split at h
    · next found ho =>
      cases h
      exact .inl ⟨data, hr, readFrom_of_ofData ho⟩
    · cases h
  · next value hmap hr =>
    cases h
    exact .inr ⟨fun data hd => hmap data (Except.ok.inj (hr.symm.trans hd)), rfl⟩

-- ---------------------------------------------------------------------------
-- Files
-- ---------------------------------------------------------------------------

def InFile (tree : FileTree) (path : FilePath) (data : Entries Value) : Prop :=
  ∃ text, tree.readText path = .ok text ∧ Json.read text = .ok (.map data)

theorem load_isOk_iff (tree : FileTree) (path : FilePath) :
    (∃ settings, load tree path = .ok settings) ↔
      tree.WithinReach path ∧ tree.HoldsText path Loadable := by
  rw [FileTree.holdsText_iff, ← FileTree.isPresent_isOk_iff]
  rcases FileTree.readText_cases tree path with ⟨fault, -, ht⟩ | ⟨text, hr, ht⟩ |
    ⟨bytes, hr, -, ht⟩ <;> rw [load.eq_def, ht]
  · cases tree.isPresent path with
    | error fault => simp
    | ok present => cases present <;> simp
  · rw [FileTree.isPresent_of_read hr]
    simpa using ofText_isOk_iff text.normalizeLines
  · rw [FileTree.isPresent_of_read hr]
    simp

theorem readFrom_of_load {tree : FileTree} {path : FilePath} (h : load tree path = .ok settings) :
    (∃ data, InFile tree path data ∧ ReadFrom data settings) ∨
      (∀ data, ¬ InFile tree path data) ∧ settings = default := by
  revert h
  simp only [InFile]
  rcases FileTree.readText_cases tree path with ⟨fault, -, ht⟩ | ⟨text, hr, ht⟩ |
    ⟨bytes, hr, -, ht⟩ <;> rw [load.eq_def, ht]
  · cases tree.isPresent path with
    | error fault => simp
    | ok present =>
      intro h
      have hd : default = settings := by cases present <;> simpa using h
      simp [hd]
  · rw [FileTree.isPresent_of_read hr]
    intro h
    simpa using readFrom_of_ofText h
  · rw [FileTree.isPresent_of_read hr]
    simp

/-- What loading does with a file of any content, or none. It succeeds, unless the way to the file is
closed or too long, the bytes are no text or an integer in the text is too long or too large; one that
is too long is a run of digits in the text. Settings have the valid values of a JSON map, and defaults
for all others. -/
theorem loads_iff_loadable (tree : FileTree) (path : FilePath) :
    ((∃ settings, load tree path = .ok settings) ↔
      tree.WithinReach path ∧ tree.HoldsText path Loadable) ∧
    (∀ text, ¬ Json.HoldsLongRun text →
      (∀ data, Json.read text = .ok (.map data) → Limited data) → Loadable text) ∧
    ∀ settings, load tree path = .ok settings →
      (∃ data, InFile tree path data ∧ ReadFrom data settings) ∨
        (∀ data, ¬ InFile tree path data) ∧ settings = default :=
  ⟨load_isOk_iff tree path, fun _ => loadable_of_not_holdsLongRun, fun _ => readFrom_of_load⟩

/-- A byte that is no text makes loading fail, and so do a closed directory and an integer that is no
double. -/
theorem not_load_byte :
    (∀ settings,
      load { directories := [], files := [(["settings.json".toList], [0xff])], working := [] }
        (FilePath.ofText "settings.json") ≠ .ok settings) ∧
      (∀ settings, load { directories := [], files := [], working := [], closed := [[]] }
        (FilePath.ofText "settings.json") ≠ .ok settings) ∧
      ∀ settings, ofData [("fetch_timeout".toList, .int Binary64.range)] ≠ .ok settings := by
  refine ⟨?_, ?_, fun settings h => ?_⟩
  · rintro settings ⟨⟩
  · rintro settings ⟨⟩
  · have hl : Limited [("fetch_timeout".toList, .int Binary64.range)] :=
      (ofData_isOk_iff _).mp ⟨settings, h⟩
    have hlt := hl _ rfl
    rw [Int.natAbs_natCast] at hlt
    exact Nat.lt_irrefl _ hlt

end Retheme.Settings
