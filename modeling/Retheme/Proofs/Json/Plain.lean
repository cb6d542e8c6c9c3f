import Retheme.Proofs.Json.RoundTrip
import Retheme.Proofs.Text.Utf8

/-!
# What JSON is written in

Written JSON consists of printable characters of the basic Latin block, and of
line feeds between items. So it has no carriage returns, and every character is
one byte.
-/

namespace Retheme.Json

variable {c : Char} {layout : Layout}

def isPlain (c : Char) : Bool := c = '\n' || (0x20 ≤ c.toNat && c.toNat < 0x7f)

-- ---------------------------------------------------------------------------
-- Parts
-- ---------------------------------------------------------------------------

theorem isPlain_of_isAsciiDigit (h : Text.isAsciiDigit c = true) : isPlain c = true := by
  have hle : '0'.toNat ≤ c.toNat ∧ c.toNat ≤ '9'.toNat := by
    simpa [Text.isAsciiDigit, Char.le_def, UInt32.le_iff_toNat_le] using h
  have h₀ : '0'.toNat = 0x30 := rfl
  have h₉ : '9'.toNat = 0x39 := rfl
  have hrange : 0x20 ≤ c.toNat ∧ c.toNat < 0x7f := by omega
  simp [isPlain, hrange]

theorem isPlain_of_mem_hexDigits (width n : Nat) :
    ∀ c ∈ Text.hexDigits width n, isPlain c = true := by
  have hone : ∀ n < 16, isPlain (Text.hexDigit n) = true := by decide
  have hlast : ∀ n, ∀ c ∈ [Text.hexDigit (n % 16)], isPlain c = true := by
    intro n c hc
    rw [List.mem_singleton.mp hc]
    exact hone _ (Nat.mod_lt n (by decide))
  fun_induction Text.hexDigits width n with
  | case1 => simp
  | case2 n hn _ => simpa using hone n hn
  | case3 n _ ih => exact List.forall_mem_append.mpr ⟨ih, hlast n⟩
  | case4 n width ih => exact List.forall_mem_append.mpr ⟨ih, hlast _⟩

theorem isPlain_of_mem_unitEscape (unit : Nat) : ∀ c ∈ unitEscape unit, isPlain c = true := by
  rw [unitEscape, List.forall_mem_cons, List.forall_mem_cons]
  exact ⟨rfl, rfl, isPlain_of_mem_hexDigits 4 unit⟩

theorem isPlain_of_mem_stringChar (d : Char) : ∀ c ∈ stringChar d, isPlain c = true := by
  rw [stringChar]
  split
  · next h =>
    rcases (by simpa using h : d = '"' ∨ d = '\\') with rfl | rfl <;> exact List.all_eq_true.mp rfl
  split
  · exact List.all_eq_true.mp rfl
  split
  · exact List.all_eq_true.mp rfl
  split
  · exact List.all_eq_true.mp rfl
  split
  · exact List.all_eq_true.mp rfl
  split
  · exact List.all_eq_true.mp rfl
  split
  · next h =>
    have hp : isPlain d = true := by rw [isPlain, h, Bool.or_true]
    simpa using hp
  split
  · exact isPlain_of_mem_unitEscape _
  · exact List.forall_mem_append.mpr ⟨isPlain_of_mem_unitEscape _, isPlain_of_mem_unitEscape _⟩

theorem isPlain_of_mem_string (s : Text) : ∀ c ∈ string s, isPlain c = true := by
  have hs : ∀ c ∈ s.flatMap stringChar, isPlain c = true := by
    intro c hc
    obtain ⟨d, -, hd⟩ := List.mem_flatMap.mp hc
    exact isPlain_of_mem_stringChar d c hd
  exact List.forall_mem_append.mpr ⟨List.forall_mem_cons.mpr ⟨rfl, hs⟩, List.all_eq_true.mp rfl⟩

theorem isPlain_of_mem_magnitude {numeral : Decimal.Numeral} (hn : numeral.IsDouble) :
    ∀ c ∈ numeral.magnitude, isPlain c = true := by
  have hdigits : ∀ digits : Text, (∀ c ∈ digits, Text.isAsciiDigit c = true) →
      ∀ c ∈ digits, isPlain c = true := fun _ h c hc => isPlain_of_isAsciiDigit (h c hc)
  rw [Decimal.Numeral.magnitude, List.forall_mem_append, List.forall_mem_append]
  refine ⟨⟨hdigits _ hn.whole.digit, ?_⟩, ?_⟩
  · rw [Decimal.fractionText]
    split
    · simp
    · exact List.forall_mem_cons.mpr ⟨rfl, hdigits _ hn.fraction⟩
  · cases he : numeral.exponent with
    | none => simp [Decimal.exponentText]
    | some part =>
      obtain ⟨negative, digits⟩ := part
      have hd := hdigits _ (hn.exponent _ he).2
      cases negative <;>
        exact List.forall_mem_cons.mpr ⟨rfl, List.forall_mem_cons.mpr ⟨rfl, hd⟩⟩

theorem isPlain_of_mem_double (x : Float) : ∀ c ∈ double x, isPlain c = true := by
  rw [double]
  cases hs : Binary64.shape x with
  | nan => exact List.all_eq_true.mp rfl
  | infinite negative => cases negative <;> exact List.all_eq_true.mp rfl
  | finite negative mantissa exponent =>
    have hmagnitude : ∀ c ∈ (if mantissa = 0 then "0.0".toList
        else (Decimal.shortest mantissa exponent).text), isPlain c = true := by
      split
      · exact List.all_eq_true.mp rfl
      · next hm =>
        obtain ⟨hx, -⟩ := Binary64.bits_of_shape hs
        obtain ⟨numeral, -, hn⟩ :=
          Decimal.exists_writes false _ (Decimal.shortest_digits_ne_zero hx hm)
        rw [← hn.text]
        exact isPlain_of_mem_magnitude hn.toIsDouble
    simp only [Decimal.floatText, hs]
    split
    · exact List.forall_mem_cons.mpr ⟨rfl, hmagnitude⟩
    · exact hmagnitude

theorem isPlain_of_mem_lead (layout : Layout) : ∀ c ∈ layout.lead, isPlain c = true := by
  cases layout with
  | line => simp [Layout.lead]
  | lines step indent =>
    refine List.forall_mem_cons.mpr ⟨rfl, fun c hc => ?_⟩
    rw [List.eq_of_mem_replicate hc]
    rfl

theorem isPlain_of_mem_gap (layout : Layout) : ∀ c ∈ layout.gap, isPlain c = true := by
  cases layout with
  | line => exact List.all_eq_true.mp rfl
  | lines step indent =>
    exact List.forall_mem_cons.mpr ⟨rfl, isPlain_of_mem_lead (.lines step indent)⟩

theorem isPlain_of_mem_join {gap : Text} {items : List Text} (hg : ∀ c ∈ gap, isPlain c = true)
    (hi : ∀ item ∈ items, ∀ c ∈ item, isPlain c = true) :
    ∀ c ∈ Text.join gap items, isPlain c = true := by
  fun_induction Text.join gap items with
  | case1 => simp
  | case2 item => exact hi item List.mem_cons_self
  | case3 item items _ ih =>
    rw [List.forall_mem_append, List.forall_mem_append]
    exact ⟨⟨hi item List.mem_cons_self, hg⟩, ih fun item hm => hi item (List.mem_cons_of_mem _ hm)⟩

theorem isPlain_of_mem_bracketed (layout : Layout) {opening closing : Char} {items : List Text}
    (ho : isPlain opening = true) (hc : isPlain closing = true)
    (hi : ∀ item ∈ items, ∀ c ∈ item, isPlain c = true) :
    ∀ c ∈ bracketed layout opening closing items, isPlain c = true := by
  rw [bracketed]
  split
  · simp [ho, hc]
  · simp only [List.forall_mem_append, List.forall_mem_cons, List.cons_append]
    exact ⟨ho, ⟨⟨isPlain_of_mem_lead _, isPlain_of_mem_join (isPlain_of_mem_gap _) hi⟩,
      isPlain_of_mem_lead _⟩, hc, by simp⟩

-- ---------------------------------------------------------------------------
-- Values
-- ---------------------------------------------------------------------------

mutual
theorem isPlain_of_mem_write (layout : Layout) :
    ∀ value : Value, ∀ c ∈ write layout value, isPlain c = true
  | .null => List.all_eq_true.mp rfl
  | .bool b => by
    rw [write]
    cases b <;> exact List.all_eq_true.mp rfl
  | .number (.int n) => by
    have hdigits : ∀ c ∈ Integer.digits n.natAbs, isPlain c = true :=
      fun c hc => isPlain_of_isAsciiDigit (Integer.isAsciiDigit_of_mem_digits _ c hc)
    rw [write, Integer.text]
    split
    · exact List.forall_mem_cons.mpr ⟨rfl, hdigits⟩
    · exact hdigits
  | .number (.float x) => by
    rw [write]
    exact isPlain_of_mem_double x
  | .text s => by
    rw [write]
    exact isPlain_of_mem_string s
  | .list items => by
    rw [write]
    exact isPlain_of_mem_bracketed layout rfl rfl (isPlain_of_mem_writeItems layout.inner items)
  | .map fields => by
    rw [write]
    exact isPlain_of_mem_bracketed layout rfl rfl (isPlain_of_mem_writeFields layout.inner fields)

theorem isPlain_of_mem_writeItems (layout : Layout) :
    ∀ items : List Value, ∀ item ∈ writeItems layout items, ∀ c ∈ item, isPlain c = true
  | [] => by simp [writeItems]
  | item :: items => by
    rw [writeItems, List.forall_mem_cons]
    exact ⟨isPlain_of_mem_write layout item, isPlain_of_mem_writeItems layout items⟩

theorem isPlain_of_mem_writeFields (layout : Layout) :
    ∀ fields : List (Text × Value), ∀ item ∈ writeFields layout fields,
      ∀ c ∈ item, isPlain c = true
  | [] => by simp [writeFields]
  | (key, item) :: fields => by
    rw [writeFields, List.forall_mem_cons, List.forall_mem_append, List.forall_mem_append]
    exact ⟨⟨⟨isPlain_of_mem_string key, List.all_eq_true.mp rfl⟩, isPlain_of_mem_write layout item⟩,
      isPlain_of_mem_writeFields layout fields⟩
end

/-- There is no carriage return in written JSON, so reading it as lines changes nothing. -/
theorem normalizeLines_write (layout : Layout) (value : Value) :
    (write layout value).normalizeLines = write layout value := by
  refine Text.normalizeLines_of_not_mem fun hm => ?_
  have hplain := isPlain_of_mem_write layout value '\r' hm
  cases hplain

end Retheme.Json
