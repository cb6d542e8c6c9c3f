import Retheme.Number.Notation
import Retheme.Number.Reader
import Retheme.Proofs.Number.Shortest

/-!
# Numerals

An integer is written in digits without a leading zero, and a decimal as a
numeral of such digits, a point with digits behind it, and an exponent. The
digits of an integer count the integer, and the parts of the numeral stand for
the decimal.
-/

namespace Retheme

-- ---------------------------------------------------------------------------
-- The value of digits
-- ---------------------------------------------------------------------------

namespace Text

theorem digitsValue_append (s t : Text) :
    (s ++ t).digitsValue = s.digitsValue * 10 ^ t.length + t.digitsValue := by
  have hfold : ∀ (t : Text) (total : Nat),
      t.foldl (fun total c => 10 * total + (digitValue? c).getD 0) total =
        total * 10 ^ t.length + t.digitsValue := by
    intro t
    induction t with
    | nil => simp [digitsValue]
    | cons c rest ih =>
      intro total
      simp only [digitsValue, List.foldl_cons, List.length_cons]
      rw [ih, ih]
      ring
  rw [digitsValue, List.foldl_append, hfold t]
  rfl

theorem digitsValue_zeros (count : Nat) : digitsValue (List.replicate count '0') = 0 := by
  induction count with
  | zero => rfl
  | succ count ih =>
    rw [List.replicate_succ', digitsValue_append, ih]
    rfl

end Text

-- ---------------------------------------------------------------------------
-- Integers
-- ---------------------------------------------------------------------------

namespace Integer

variable {n : Nat}

/-- The digits of the whole part of a number: there is one, and zero leads only on its own. -/
structure IsWhole (digits : Text) : Prop where
  digit : ∀ c ∈ digits, Text.isAsciiDigit c = true
  ne_nil : digits ≠ []
  zero : digits.head? = some '0' → digits = ['0']

theorem digit_spec : ∀ n < 10,
    Text.isAsciiDigit (digit n) = true ∧ Text.digitValue? (digit n) = some n := by decide

theorem isWhole_zero : IsWhole ['0'] := by
  refine ⟨?_, by simp, fun _ => rfl⟩
  rintro c (_ | ⟨_, ⟨⟩⟩)
  rfl

theorem digits_ne_nil (n : Nat) : digits n ≠ [] := by
  rw [digits]
  split <;> simp

theorem isAsciiDigit_of_mem_digits (n : Nat) : ∀ c ∈ digits n, Text.isAsciiDigit c = true := by
  fun_induction digits n with
  | case1 n h => simpa using (digit_spec n h).1
  | case2 n h ih =>
    intro c hc
    rcases List.mem_append.mp hc with hc | hc
    · exact ih c hc
    · rw [List.mem_singleton.mp hc]
      exact (digit_spec (n % 10) (Nat.mod_lt n (by decide))).1

theorem digitsValue_digits (n : Nat) : (digits n).digitsValue = n := by
  have hone : ∀ n < 10, Text.digitsValue [digit n] = n := by decide
  fun_induction digits n with
  | case1 n h => exact hone n h
  | case2 n h ih =>
    rw [Text.digitsValue_append, ih, hone _ (Nat.mod_lt n (by decide)), List.length_singleton]
    omega

theorem head?_digits (hn : n ≠ 0) : (digits n).head? ≠ some '0' := by
  have hone : ∀ n < 10, digit n = '0' → n = 0 := by decide
  fun_induction digits n with
  | case1 n h => exact fun h' => hn (hone n h (Option.some.inj h'))
  | case2 n h ih =>
    rw [List.head?_append_of_ne_nil _ (digits_ne_nil _)]
    exact ih (by omega)

theorem isWhole_digits (n : Nat) : IsWhole (digits n) where
  digit := isAsciiDigit_of_mem_digits n
  ne_nil := digits_ne_nil n
  zero h := by
    by_cases hn : n = 0
    · rw [hn, digits]
      rfl
    · exact absurd h (head?_digits hn)

theorem length_digits_le {count : Nat} (hc : count ≠ 0) (hn : n < tenTo count) :
    (digits n).length ≤ count := by
  rw [tenTo, Nat.pow_eq] at hn
  induction count generalizing n with
  | zero => exact absurd rfl hc
  | succ count ih =>
    rw [digits]
    split
    · exact Nat.succ_le_succ (Nat.zero_le _)
    · rw [List.length_append, List.length_singleton]
      refine Nat.succ_le_succ (ih ?_ ?_)
      · rintro rfl
        omega
      · rw [Nat.pow_succ] at hn
        omega

end Integer

-- ---------------------------------------------------------------------------
-- Numerals
-- ---------------------------------------------------------------------------

namespace Decimal

open Integer (IsWhole isWhole_zero)

variable {numeral : Numeral} {decimal : Scaled}

def Numeral.scaled (numeral : Numeral) : Scaled :=
  let shift : Int := match numeral.exponent with
    | none => 0
    | some (negative, digits) =>
      if negative then -(digits.digitsValue : Int) else digits.digitsValue
  ⟨(numeral.whole ++ numeral.fraction).digitsValue, shift - numeral.fraction.length⟩

def fractionText (fraction : Text) : Text := if fraction.isEmpty then [] else '.' :: fraction

def exponentText : Option (Bool × Text) → Text
  | none => []
  | some (negative, digits) => 'e' :: (if negative then '-' else '+') :: digits

def Numeral.magnitude (numeral : Numeral) : Text :=
  numeral.whole ++ fractionText numeral.fraction ++ exponentText numeral.exponent

/-- A numeral of a double: it has a point or an exponent. -/
structure Numeral.IsDouble (numeral : Numeral) : Prop where
  whole : IsWhole numeral.whole
  fraction : ∀ c ∈ numeral.fraction, Text.isAsciiDigit c = true
  exponent : ∀ part ∈ numeral.exponent,
    part.2 ≠ [] ∧ ∀ c ∈ part.2, Text.isAsciiDigit c = true
  marked : numeral.fraction ≠ [] ∨ numeral.exponent ≠ none

structure Numeral.Writes (numeral : Numeral) (decimal : Scaled) : Prop extends numeral.IsDouble where
  text : numeral.magnitude = decimal.text
  value : numeral.scaled.toRat = decimal.toRat
  -- The exponent of the parts is that of the decimal, unless zeros were written for it.
  scale : numeral.scaled.exponent = decimal.exponent ∨ numeral.scaled.exponent = -1

theorem Numeral.IsDouble.writes (h : numeral.IsDouble) (hs : numeral.scaled = decimal)
    (ht : numeral.magnitude = decimal.text) : numeral.Writes decimal :=
  { h with text := ht, value := by rw [hs], scale := .inl (by rw [hs]) }

-- ---------------------------------------------------------------------------
-- The notation of a decimal
-- ---------------------------------------------------------------------------

theorem isAsciiDigit_zeros (count : Nat) :
    ∀ c ∈ List.replicate count '0', Text.isAsciiDigit c = true := by
  intro c hc
  rw [List.eq_of_mem_replicate hc]
  rfl

theorem padded_spec (width n : Nat) :
    (padded width n).digitsValue = n ∧ padded width n ≠ [] ∧
      ∀ c ∈ padded width n, Text.isAsciiDigit c = true := by
  refine ⟨?_, ?_, ?_⟩
  · rw [padded, Text.digitsValue_append, Text.digitsValue_zeros, Integer.digitsValue_digits]
    omega
  · simp [padded, Integer.digits_ne_nil]
  · intro c hc
    rcases List.mem_append.mp hc with hc | hc
    · exact isAsciiDigit_zeros _ c hc
    · exact Integer.isAsciiDigit_of_mem_digits n c hc

theorem writes_small (negative : Bool) (decimal : Scaled)
    (hl : -4 < (Integer.digits decimal.digits).length + decimal.exponent)
    (hu : (Integer.digits decimal.digits).length + decimal.exponent ≤ 0) :
    ∃ numeral : Numeral, numeral.negative = negative ∧ numeral.Writes decimal := by
  obtain ⟨digits, hd⟩ : ∃ digits, digits = Integer.digits decimal.digits := ⟨_, rfl⟩
  rw [← hd] at hl hu
  obtain ⟨zeros, hz⟩ := Int.eq_ofNat_of_zero_le (Int.neg_nonneg.mpr hu)
  have hne : digits ≠ [] := hd ▸ Integer.digits_ne_nil _
  have hscaled : (⟨negative, ['0'], List.replicate zeros '0' ++ digits, none⟩ : Numeral).scaled =
      decimal := by
    have hzero : Text.digitsValue ['0'] = 0 := rfl
    obtain ⟨n, e⟩ := decimal
    simp only [Numeral.scaled, Text.digitsValue_append, Text.digitsValue_zeros, hzero, hd,
      Integer.digitsValue_digits, List.length_append, List.length_replicate, Scaled.mk.injEq]
    rw [← hd]
    constructor
    · omega
    · simp only at hz
      push_cast
      omega
  refine ⟨⟨negative, ['0'], List.replicate zeros '0' ++ digits, none⟩, rfl,
    Numeral.IsDouble.writes ⟨isWhole_zero, ?_, by simp, .inl (by simp [hne])⟩ hscaled ?_⟩
  · intro c hc
    rcases List.mem_append.mp hc with hc | hc
    · exact isAsciiDigit_zeros _ c hc
    · exact Integer.isAsciiDigit_of_mem_digits _ c (hd ▸ hc)
  · have hpoint : (-(digits.length + decimal.exponent)).toNat = zeros := by omega
    simp only [Scaled.text, ← hd]
    rw [if_pos ⟨hl, by omega⟩, positional, if_pos hu, hpoint]
    simp [Numeral.magnitude, fractionText, exponentText, hne]

theorem writes_large (negative : Bool) (decimal : Scaled) (hn : decimal.digits ≠ 0)
    (hl : 0 ≤ decimal.exponent)
    (hu : (Integer.digits decimal.digits).length + decimal.exponent ≤ 16) :
    ∃ numeral : Numeral, numeral.negative = negative ∧ numeral.Writes decimal := by
  obtain ⟨digits, hd⟩ : ∃ digits, digits = Integer.digits decimal.digits := ⟨_, rfl⟩
  rw [← hd] at hu
  obtain ⟨zeros, hz⟩ := Int.eq_ofNat_of_zero_le hl
  have hne : digits ≠ [] := hd ▸ Integer.digits_ne_nil _
  have hlen := List.length_pos_iff.mpr hne
  refine ⟨⟨negative, digits ++ List.replicate zeros '0', ['0'], none⟩, rfl, ?_⟩
  refine { whole := ?_, fraction := isWhole_zero.digit, exponent := by simp, marked := .inl (by simp)
           text := ?_, value := ?_, scale := .inr rfl }
  · refine ⟨?_, by simp [hne], ?_⟩
    · intro c hc
      rcases List.mem_append.mp hc with hc | hc
      · exact Integer.isAsciiDigit_of_mem_digits _ c (hd ▸ hc)
      · exact isAsciiDigit_zeros _ c hc
    · rw [List.head?_append_of_ne_nil _ hne, hd]
      exact fun h => absurd h (Integer.head?_digits hn)
  · have hpoint : (digits.length + decimal.exponent).toNat = digits.length + zeros := by omega
    simp only [Scaled.text, ← hd]
    rw [if_pos ⟨by omega, hu⟩, positional, if_neg (by omega)]
    simp only [hpoint]
    rw [if_pos (by omega), Nat.add_sub_cancel_left]
    simp [Numeral.magnitude, fractionText, exponentText]
  · have hzero : Text.digitsValue ['0'] = 0 := rfl
    simp only [Scaled.toRat, Numeral.scaled, Text.digitsValue_append, Text.digitsValue_zeros, hzero,
      hd, Integer.digitsValue_digits, List.length_replicate, List.length_singleton, hz]
    push_cast
    simp

theorem writes_between (negative : Bool) (decimal : Scaled) (hn : decimal.digits ≠ 0)
    (hl : 0 < (Integer.digits decimal.digits).length + decimal.exponent)
    (hu : (Integer.digits decimal.digits).length + decimal.exponent ≤ 16)
    (he : decimal.exponent < 0) :
    ∃ numeral : Numeral, numeral.negative = negative ∧ numeral.Writes decimal := by
  obtain ⟨digits, hd⟩ : ∃ digits, digits = Integer.digits decimal.digits := ⟨_, rfl⟩
  rw [← hd] at hl hu
  obtain ⟨places, hp⟩ := Int.eq_ofNat_of_zero_le hl.le
  have hlt : places < digits.length := by omega
  have hpos : 0 < places := by omega
  have hdigit : ∀ c ∈ digits, Text.isAsciiDigit c = true :=
    hd ▸ Integer.isAsciiDigit_of_mem_digits _
  have hscaled : (⟨negative, digits.take places, digits.drop places, none⟩ : Numeral).scaled =
      decimal := by
    obtain ⟨n, e⟩ := decimal
    simp only [Numeral.scaled, List.take_append_drop, List.length_drop, Scaled.mk.injEq]
    refine ⟨?_, ?_⟩
    · rw [hd, Integer.digitsValue_digits]
    · simp only at hp
      omega
  refine ⟨⟨negative, digits.take places, digits.drop places, none⟩, rfl,
    Numeral.IsDouble.writes
      ⟨?_, fun c hc => hdigit c (List.mem_of_mem_drop hc), by simp, .inl ?_⟩ hscaled ?_⟩
  · refine ⟨fun c hc => hdigit c (List.mem_of_mem_take hc), ?_, ?_⟩
    · rw [← List.length_pos_iff, List.length_take]
      omega
    · rw [List.head?_take, if_neg hpos.ne', hd]
      exact fun h => absurd h (Integer.head?_digits hn)
  · rw [← List.length_pos_iff, List.length_drop]
    omega
  · have hpoint : (digits.length + decimal.exponent).toNat = places := by omega
    have hdrop : digits.drop places ≠ [] := by
      rw [← List.length_pos_iff, List.length_drop]
      omega
    simp only [Scaled.text, ← hd]
    rw [if_pos ⟨by omega, hu⟩, positional, if_neg (by omega)]
    simp only [hpoint]
    rw [if_neg (by omega)]
    simp [Numeral.magnitude, fractionText, exponentText, hlt]

theorem writes_exponential (negative : Bool) (decimal : Scaled) (hn : decimal.digits ≠ 0)
    (h : ¬ (-4 < (Integer.digits decimal.digits).length + decimal.exponent ∧
      (Integer.digits decimal.digits).length + decimal.exponent ≤ 16)) :
    ∃ numeral : Numeral, numeral.negative = negative ∧ numeral.Writes decimal := by
  obtain ⟨digits, hd⟩ : ∃ digits, digits = Integer.digits decimal.digits := ⟨_, rfl⟩
  have hdigit : ∀ c ∈ digits, Text.isAsciiDigit c = true :=
    hd ▸ Integer.isAsciiDigit_of_mem_digits _
  have hhead : digits.head? ≠ some '0' := hd ▸ Integer.head?_digits hn
  have hvalue : digits.digitsValue = decimal.digits := by rw [hd, Integer.digitsValue_digits]
  rw [← hd] at h
  cases hs : digits with
  | nil => exact absurd (hd ▸ hs) (Integer.digits_ne_nil _)
  | cons first rest =>
    obtain ⟨power, hpow⟩ : ∃ power : Int, power = digits.length + decimal.exponent - 1 := ⟨_, rfl⟩
    obtain ⟨hpad, hpadne, hpaddigit⟩ := padded_spec 2 power.natAbs
    have hscaled : (⟨negative, [first], rest,
        some (decide (power < 0), padded 2 power.natAbs)⟩ : Numeral).scaled = decimal := by
      obtain ⟨n, e⟩ := decimal
      simp only [Numeral.scaled, hpad, List.singleton_append, ← hs, Scaled.mk.injEq,
        decide_eq_true_eq]
      refine ⟨hvalue, ?_⟩
      simp only [hs, List.length_cons] at hpow
      push_cast at hpow
      split <;> omega
    refine ⟨⟨negative, [first], rest, some (decide (power < 0), padded 2 power.natAbs)⟩, rfl,
      Numeral.IsDouble.writes ⟨?_, ?_, ?_, .inr (by simp)⟩ hscaled ?_⟩
    · refine ⟨?_, by simp, fun h => ?_⟩
      · intro c hc
        exact hdigit c (by simp [hs, List.mem_singleton.mp hc])
      · rw [hs] at hhead
        exact absurd h (by simpa using hhead)
    · intro c hc
      exact hdigit c (by simp [hs, hc])
    · rintro part ⟨⟩
      exact ⟨hpadne, hpaddigit⟩
    · simp only [Scaled.text, ← hd]
      rw [if_neg h, ← hpow, hs]
      simp only [exponential, Numeral.magnitude, fractionText, exponentText, decide_eq_true_eq]
      cases rest <;> simp

/-- The text of a decimal is that of a numeral which stands for it. -/
theorem exists_writes (negative : Bool) (decimal : Scaled) (hn : decimal.digits ≠ 0) :
    ∃ numeral : Numeral, numeral.negative = negative ∧ numeral.Writes decimal := by
  by_cases h : -4 < (Integer.digits decimal.digits).length + decimal.exponent ∧
      (Integer.digits decimal.digits).length + decimal.exponent ≤ 16
  · obtain ⟨hl, hu⟩ := h
    rcases Int.lt_or_le 0 ((Integer.digits decimal.digits).length + decimal.exponent) with hp | hp
    · rcases Int.lt_or_le decimal.exponent 0 with he | he
      · exact writes_between negative decimal hn hp hu he
      · exact writes_large negative decimal hn he hu
    · exact writes_small negative decimal hl hp
  · exact writes_exponential negative decimal hn h

end Decimal

end Retheme
