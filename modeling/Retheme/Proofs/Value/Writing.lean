import Retheme.Proofs.Expression.Agree
import Retheme.Proofs.Number.Range

/-!
# Which values have a text

A value fails to have a text for two reasons only: it is an integer that has no
double, or it is a list in which an integer of too many digits stands, however
deep. In particular no value fails whose integers all have doubles.
-/

namespace Retheme.Value

inductive Occurs (inner : Value) : Value → Prop
  | here : Occurs inner inner
  | item {items : List Value} {item : Value} (hm : item ∈ items) (h : Occurs inner item) :
      Occurs inner (.list items)
  | field {fields : List (Text × Value)} {key : Text} {item : Value} (hm : (key, item) ∈ fields)
      (h : Occurs inner item) : Occurs inner (.map fields)

variable {value : Value} {items : List Value} {fields : List (Text × Value)} {n : Int}

theorem occurs_list_iff : Occurs (int n) (list items) ↔ ∃ item ∈ items, Occurs (int n) item := by
  constructor
  · rintro (_ | ⟨hm, h⟩)
    exact ⟨_, hm, h⟩
  · rintro ⟨item, hm, h⟩
    exact .item hm h

theorem occurs_map_iff : Occurs (int n) (map fields) ↔ ∃ field ∈ fields, Occurs (int n) field.2 := by
  constructor
  · rintro (_ | _ | ⟨hm, h⟩)
    exact ⟨_, hm, h⟩
  · rintro ⟨⟨key, item⟩, hm, h⟩
    exact .field hm h

/-- Some integer in a value has too many digits to be written. -/
def HoldsLong (value : Value) : Prop := ∃ n, Occurs (int n) value ∧ Integer.isLong n = true

mutual
theorem hasLongInteger_iff : ∀ value : Value, value.hasLongInteger = true ↔ value.HoldsLong
  | null | bool _ | text _ | number (.float _) => by
    refine iff_of_false (by simp [hasLongInteger]) ?_
    rintro ⟨n, h, -⟩
    cases h
  | number (.int m) => by
    rw [hasLongInteger]
    constructor
    · exact fun h => ⟨m, .here, h⟩
    · rintro ⟨n, _ | _, h⟩
      exact h
  | list items => by
    rw [hasLongInteger, anyLongItem_iff items]
    constructor
    · rintro ⟨item, hm, n, h, hn⟩
      exact ⟨n, .item hm h, hn⟩
    · rintro ⟨n, h, hn⟩
      obtain ⟨item, hm, h⟩ := occurs_list_iff.mp h
      exact ⟨item, hm, n, h, hn⟩
  | map fields => by
    rw [hasLongInteger, anyLongField_iff fields]
    constructor
    · rintro ⟨⟨key, item⟩, hm, n, h, hn⟩
      exact ⟨n, .field hm h, hn⟩
    · rintro ⟨n, h, hn⟩
      obtain ⟨field, hm, h⟩ := occurs_map_iff.mp h
      exact ⟨field, hm, n, h, hn⟩

theorem anyLongItem_iff : ∀ items : List Value,
    anyLongItem items = true ↔ ∃ item ∈ items, item.HoldsLong
  | [] => by simp [anyLongItem]
  | item :: items => by
    simp [anyLongItem, hasLongInteger_iff item, anyLongItem_iff items]

theorem anyLongField_iff : ∀ fields : List (Text × Value),
    anyLongField fields = true ↔ ∃ field ∈ fields, field.2.HoldsLong
  | [] => by simp [anyLongField]
  | (key, item) :: fields => by
    simp only [anyLongField, Bool.or_eq_true, hasLongInteger_iff item, anyLongField_iff fields,
      List.exists_mem_cons_iff]
end

-- ---------------------------------------------------------------------------
-- Texts
-- ---------------------------------------------------------------------------

theorem shown_isOk_iff : value.shown.isOk = true ↔ ¬ value.HoldsLong := by
  rw [← hasLongInteger_iff]
  cases value with
  | text s => exact iff_of_true rfl (by simp [hasLongInteger])
  | _ =>
    simp only [shown]
    split <;> simp_all [Except.isOk, Except.toBool]

/-- Whether a value has a text in a declaration, or has none by its kind. -/
def IsWritable : Value → Prop
  | number (.int n) => n.natAbs < Binary64.range
  | list items => ¬ (list items).HoldsLong
  | _ => True

theorem isOk_map {α β : Type} (f : α → β) (result : Except Failure α) :
    (result.map f).isOk = result.isOk := by
  cases result <;> rfl

theorem text_isOk (n : Number) : n.text.isOk = n.toFloat.isOk := by
  rw [Number.text]
  cases n.toFloat with
  | error => rfl
  | ok x =>
    simp only [bind, Except.bind]
    split <;> rfl

theorem toFloat_isOk_iff (n : Int) :
    (Number.int n).toFloat.isOk = true ↔ n.natAbs < Binary64.range := by
  rw [← Nat.not_le, ← Binary64.ofInt?_eq_none_iff, Number.toFloat.eq_def]
  dsimp only
  cases Binary64.ofInt? n <;> simp [Except.isOk, Except.toBool]

theorem declared?_isOk_iff : value.declared?.isOk = true ↔ value.IsWritable := by
  cases value with
  | null | bool | map => exact iff_of_true rfl trivial
  | number n =>
    rw [declared?, isOk_map, text_isOk]
    cases n with
    | int n => exact toFloat_isOk_iff n
    | float x => exact iff_of_true rfl trivial
  | text s => exact iff_of_true rfl trivial
  | list items =>
    rw [declared?.eq_def]
    dsimp only
    rw [isOk_map]
    exact shown_isOk_iff

-- ---------------------------------------------------------------------------
-- Values whose integers have doubles
-- ---------------------------------------------------------------------------

/-- Every integer in a value has a double. -/
def Fits (value : Value) : Prop := ∀ n, Occurs (int n) value → n.natAbs < Binary64.range

theorem two_pow_sub_le (a b c : Nat) (h : a ≤ c) : 2 ^ a - 2 ^ b ≤ 10 ^ c :=
  calc 2 ^ a - 2 ^ b ≤ 2 ^ a := Nat.sub_le _ _
    _ ≤ 10 ^ a := Nat.pow_le_pow_left (by decide) a
    _ ≤ 10 ^ c := Nat.pow_le_pow_right (by decide) h

theorem range_le : Binary64.range ≤ tenTo Integer.digitLimit :=
  two_pow_sub_le 1024 970 Integer.digitLimit (by decide)

theorem Fits.not_holdsLong (h : value.Fits) : ¬ value.HoldsLong := by
  rintro ⟨n, ho, hn⟩
  rw [Integer.isLong, decide_eq_true_eq] at hn
  exact Nat.not_lt_of_le (range_le.trans hn) (h n ho)

theorem Fits.isWritable (h : value.Fits) : value.IsWritable := by
  cases value with
  | number n =>
    cases n with
    | int n => exact h n .here
    | float => trivial
  | list => exact h.not_holdsLong
  | _ => trivial

theorem fits_of_isTextOrNull (h : value.IsTextOrNull) : value.Fits := by
  cases value with
  | null | text =>
    intro n ho
    cases ho
  | _ => cases h

theorem Fits.get? {key : Text} (h : (map fields).Fits) (hk : Entries.get? key fields = some value) :
    value.Fits :=
  fun n ho => h n (.field (Entries.mem_of_get? hk) ho)

theorem Fits.walk {inner : Value} (h : value.Fits) {names : List Text}
    (hw : Theme.walk value names = some inner) : inner.Fits := by
  induction names generalizing value with
  | nil =>
    cases hw
    exact h
  | cons name names ih =>
    rw [Theme.walk.eq_def] at hw
    dsimp only at hw
    split at hw
    · obtain ⟨next, hn, hw⟩ := Option.bind_eq_some_iff.mp hw
      exact ih (h.get? hn) hw
    · cases hw

end Retheme.Value
