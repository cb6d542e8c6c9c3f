import Retheme.Proofs.File.Text
import Retheme.Proofs.Json.Consumed
import Retheme.Theme.File

/-!
# Which theme files are loaded or refused

A theme file gives a theme with a name, or it is refused with a message that
names the file, whatever JSON it holds. Three things are neither: bytes that
are no text, an integer with too many digits, and fallbacks that are true or a
number other than zero. A path that cannot be one is no refusal either.
-/

namespace Retheme.ThemeFile

variable {tree : FileTree} {path : FilePath} {ns text : Text} {cascades : Cascades}
  {fields : Entries Value} {α β : Type}

def OnlyRefuses (result : Except ThemeFileFault α) : Prop :=
  ∀ fault, result = .error fault → ∃ reason, fault = .refused reason

theorem onlyRefuses_ok (value : α) : OnlyRefuses (.ok value) := by
  rintro fault ⟨⟩

theorem onlyRefuses_error_iff {fault : ThemeFileFault} :
    OnlyRefuses (.error fault : Except ThemeFileFault α) ↔ ∃ reason, fault = .refused reason := by
  constructor
  · exact fun h => h fault rfl
  · rintro h _ ⟨⟩
    exact h

-- ---------------------------------------------------------------------------
-- Fields
-- ---------------------------------------------------------------------------

def HasItems (value : Value) : Prop :=
  value.truthy = true → (∀ b, value ≠ .bool b) ∧ ∀ n, value ≠ .number n

theorem fallbacksOf_isOk_iff (value : Value) :
    (∃ fallbacks, fallbacksOf value = .ok fallbacks) ↔ HasItems value := by
  rw [HasItems, fallbacksOf.eq_def]
  cases value.truthy with
  | false => simp
  | true => cases value <;> simp

def Listed (fields : Entries Value) : Prop :=
  ∀ data, (Entries.get? "data".toList fields).getD (.map []) = .map data →
    HasItems ((Entries.get? "cascade".toList fields).getD .null)

theorem onlyRefuses_ofFields_iff (fields : Entries Value) :
    OnlyRefuses (ofFields fields) ↔ Listed fields := by
  rw [ofFields, Listed]
  cases hd : (Entries.get? "data".toList fields).getD (.map []) with
  | map data =>
    have hitems := fallbacksOf_isOk_iff ((Entries.get? "cascade".toList fields).getD .null)
    cases hf : fallbacksOf ((Entries.get? "cascade".toList fields).getD .null) with
    | ok fallbacks =>
      refine iff_of_true ?_ fun _ _ => hitems.mp ⟨fallbacks, hf⟩
      simp only [bind, Except.bind, pure, Except.pure]
      exact onlyRefuses_ok _
    | error failure =>
      refine iff_of_false ?_ fun h => ?_
      · simp only [bind, Except.bind, throw, throwThe, MonadExceptOf.throw]
        simp [onlyRefuses_error_iff]
      · obtain ⟨fallbacks, hok⟩ := hitems.mpr (h data rfl)
        rw [hf] at hok
        cases hok
  | _ => exact iff_of_true (onlyRefuses_error_iff.mpr ⟨_, rfl⟩) (by simp)

-- ---------------------------------------------------------------------------
-- Files
-- ---------------------------------------------------------------------------

structure Readable (text : Text) : Prop where
  short : Json.read text ≠ .error .tooManyDigits
  listed : ∀ fields, Json.read text = .ok (.map fields) → Listed fields

theorem readable_of_not_holdsLongRun (hs : ¬ Json.HoldsLongRun text)
    (hl : ∀ fields, Json.read text = .ok (.map fields) → Listed fields) : Readable text :=
  ⟨fun h => hs (Json.holdsLongRun_of_readWith _ h), hl⟩

theorem onlyRefuses_ofText_iff (text : Text) : OnlyRefuses (ofText text) ↔ Readable text := by
  rw [ofText.eq_def]
  split
  · next fields h =>
    rw [onlyRefuses_ofFields_iff]
    exact ⟨fun hl => ⟨by simp [h], by simpa [h] using hl⟩, fun hr => hr.listed fields h⟩
  · next value hmap h =>
    exact iff_of_true (onlyRefuses_error_iff.mpr ⟨_, rfl⟩)
      ⟨by simp [h], fun fields hf => absurd (h.symm.trans hf) (by simpa using hmap fields)⟩
  · next h => exact iff_of_true (onlyRefuses_error_iff.mpr ⟨_, rfl⟩) ⟨by simp [h], by simp [h]⟩
  · next h => exact iff_of_false (by simp [onlyRefuses_error_iff]) fun hr => hr.short h

structure Loadable (tree : FileTree) (path : FilePath) : Prop where
  valid : tree.read path ≠ .error .invalidPath
  text : tree.HoldsText path Readable

theorem onlyRefuses_read_iff (tree : FileTree) (path : FilePath) :
    OnlyRefuses (read tree path) ↔ Loadable tree path := by
  have hl : Loadable tree path ↔ _ ∧ _ := ⟨fun h => ⟨h.valid, h.text⟩, fun h => ⟨h.1, h.2⟩⟩
  rw [hl, FileTree.holdsText_iff, read.eq_def]
  rcases FileTree.readText_cases tree path with ⟨fault, hr, ht⟩ | ⟨text, hr, ht⟩ |
    ⟨bytes, hr, -, ht⟩ <;> rw [hr, ht]
  · cases fault with
    | invalidPath => exact iff_of_false (by simp [onlyRefuses_error_iff]) fun h => h.1 rfl
    | _ => exact iff_of_true (onlyRefuses_error_iff.mpr ⟨_, rfl⟩) (by simp)
  · simp only [onlyRefuses_ofText_iff]
    simp
  · exact iff_of_false (by simp [onlyRefuses_error_iff]) fun h => h.2.1 rfl

theorem onlyRefuses_load_iff (tree : FileTree) (path : FilePath) (ns : Text) (cascades : Cascades) :
    OnlyRefuses (load tree path ns cascades).theme ↔ OnlyRefuses (read tree path) := by
  rw [load.eq_def]
  cases read tree path with
  | error fault => exact onlyRefuses_error_iff.trans onlyRefuses_error_iff.symm
  | ok file =>
    refine iff_of_true ?_ (onlyRefuses_ok file)
    dsimp only
    split
    · exact onlyRefuses_error_iff.mpr ⟨_, rfl⟩
    · exact onlyRefuses_ok _

theorem ne_nil_of_nameOf {name : Value} {data : Entries Value} {found : Text}
    (h : nameOf name data = some found) : found ≠ [] := by
  rw [nameOf] at h
  split at h
  · cases h
    simp
  · cases h

theorem name_ne_nil_of_load {theme : Theme} (h : (load tree path ns cascades).theme = .ok theme) :
    theme.name ≠ [] := by
  rw [load.eq_def] at h
  split at h
  · cases h
  · dsimp only at h
    split at h
    · cases h
    · next name hn =>
      cases h
      exact ne_nil_of_nameOf hn

/-- Loading a file gives a theme with a name or a refusal exactly when the path can be one, the bytes
are those of a text without integers that are too long, and fallbacks next to data have items. -/
theorem loaded_or_refused_iff (tree : FileTree) (path : FilePath) (ns : Text) (cascades : Cascades) :
    ((∃ theme, (load tree path ns cascades).theme = .ok theme ∧ theme.name ≠ []) ∨
        ∃ fault, (load tree path ns cascades).theme = .error (.refused fault)) ↔
      Loadable tree path := by
  rw [← onlyRefuses_read_iff, ← onlyRefuses_load_iff tree path ns cascades]
  cases hl : (load tree path ns cascades).theme with
  | ok theme => exact iff_of_true (.inl ⟨theme, rfl, name_ne_nil_of_load hl⟩) (onlyRefuses_ok _)
  | error fault =>
    constructor
    · rintro (⟨_, ⟨⟩, -⟩ | ⟨reason, ⟨⟩⟩)
      exact onlyRefuses_error_iff.mpr ⟨reason, rfl⟩
    · intro h
      obtain ⟨reason, rfl⟩ := onlyRefuses_error_iff.mp h
      exact .inr ⟨reason, rfl⟩

end Retheme.ThemeFile
