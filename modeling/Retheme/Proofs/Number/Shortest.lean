import Mathlib.Data.Nat.Cast.Order.Field
import Retheme.Number.Reader
import Retheme.Proofs.Number.Bits
import Retheme.Proofs.Number.Range
import Retheme.Proofs.Number.Rounding

/-!
# Shortest decimals read back

The search for the shortest decimal of a double ends in the interval of the
double: on the grid of seventeen digits a step is shorter than the interval.
The decimal found reads back as the double.
-/

namespace Retheme.Decimal

open Binary64 (IsDouble Within below minExponent zpow_eq_div)

variable {mantissa digits steps : Nat} {exponent grid place : Int} {value : ℚ}

-- ---------------------------------------------------------------------------
-- Decimals as numbers
-- ---------------------------------------------------------------------------

def Scaled.toRat (decimal : Scaled) : ℚ := decimal.digits * 10 ^ decimal.exponent

theorem cast_tenTo (n : Nat) : (tenTo n : ℚ) = 10 ^ n := by
  rw [tenTo, Nat.pow_eq, Nat.cast_pow, Nat.cast_ofNat]

theorem tenTo_pos (n : Nat) : 0 < tenTo n := Nat.pow_pos (by decide)

theorem toRat_trimmed (decimal : Scaled) : decimal.trimmed.toRat = decimal.toRat := by
  fun_induction Scaled.trimmed decimal with
  | case1 decimal h hlt ih =>
    rw [ih, Scaled.toRat, Scaled.toRat, zpow_add₀ (by norm_num), zpow_one]
    have hd : decimal.digits = 10 * (decimal.digits / 10) := by omega
    have hc : (decimal.digits : ℚ) = 10 * (decimal.digits / 10 : Nat) := by exact_mod_cast hd
    rw [hc]
    ring
  | case2 => rfl

theorem exponent_le_trimmed (decimal : Scaled) : decimal.exponent ≤ decimal.trimmed.exponent := by
  fun_induction Scaled.trimmed decimal with
  | case1 decimal h hlt ih =>
    simp only at ih
    omega
  | case2 => exact le_refl _

-- ---------------------------------------------------------------------------
-- Intervals
-- ---------------------------------------------------------------------------

namespace Interval

theorem num_div_den (mantissa : Nat) (exponent : Int) :
    ((ofDouble mantissa exponent).num / (ofDouble mantissa exponent).den : ℚ) =
      mantissa * 2 ^ exponent := by
  rw [zpow_eq_div, ofDouble, Nat.cast_mul, Binary64.cast_twoTo, Binary64.cast_twoTo, mul_div_assoc]

theorem den_pos (mantissa : Nat) (exponent : Int) : 0 < (ofDouble mantissa exponent).den :=
  Binary64.twoTo_pos _

theorem cast_low (hm : mantissa ≠ 0) (exponent : Int) :
    ((ofDouble mantissa exponent).low : ℚ) =
      4 * (mantissa - below mantissa exponent) * 2 ^ exponent.toNat := by
  obtain ⟨c, hc, hle, hb⟩ : ∃ c : Nat,
      (if mantissa = twoTo 52 && minExponent < exponent then 1 else 2) = c ∧ c ≤ 2 ∧
        (c : ℚ) = 4 * below mantissa exponent := by
    refine ⟨_, rfl, by split <;> decide, ?_⟩
    have h52 : twoTo 52 = 2 ^ 52 := rfl
    simp only [h52, below, Bool.and_eq_true, decide_eq_true_eq]
    split <;> norm_num
  have hl : (ofDouble mantissa exponent).low = (4 * mantissa - c) * twoTo exponent.toNat := by
    rw [← hc]
    rfl
  rw [hl, Nat.cast_mul, Nat.cast_sub (by omega), Binary64.cast_twoTo, hb]
  push_cast
  ring

theorem cast_high (mantissa : Nat) (exponent : Int) :
    ((ofDouble mantissa exponent).high : ℚ) =
      4 * (mantissa + 1 / 2) * 2 ^ exponent.toNat := by
  simp only [ofDouble, Nat.cast_mul, Nat.cast_add, Binary64.cast_twoTo]
  push_cast
  ring

theorem compare_iff {bound : Nat} {bounded : ℚ}
    (hb : (bound : ℚ) = 4 * bounded * 2 ^ exponent.toNat) (digits : Nat) (grid : Int) :
    let number := 4 * digits * tenTo grid.toNat * twoTo (-exponent).toNat
    let scaled := bound * tenTo (-grid).toNat
    ((scaled ≤ number ↔ bounded * 2 ^ exponent ≤ digits * 10 ^ grid) ∧
        (scaled < number ↔ bounded * 2 ^ exponent < digits * 10 ^ grid)) ∧
      ((number ≤ scaled ↔ digits * 10 ^ grid ≤ bounded * 2 ^ exponent) ∧
        (number < scaled ↔ digits * 10 ^ grid < bounded * 2 ^ exponent)) := by
  intro number scaled
  have hu : (0 : ℚ) < 10 ^ (-grid).toNat := by positivity
  have hd : (0 : ℚ) < 2 ^ (-exponent).toNat := by positivity
  have hn : (number : ℚ) = 4 * (digits * 10 ^ grid.toNat) * 2 ^ (-exponent).toNat := by
    simp only [number, Nat.cast_mul, cast_tenTo, Binary64.cast_twoTo]
    push_cast
    ring
  have hs : (scaled : ℚ) = 4 * (bounded * 2 ^ exponent.toNat) * 10 ^ (-grid).toNat := by
    simp only [scaled, Nat.cast_mul, cast_tenTo, hb]
    ring
  rw [zpow_eq_div 2, zpow_eq_div 10, ← mul_div_assoc, ← mul_div_assoc, div_le_div_iff₀ hd hu,
    div_lt_div_iff₀ hd hu, div_le_div_iff₀ hu hd, div_lt_div_iff₀ hu hd]
  rw [← Nat.cast_le (α := ℚ), ← Nat.cast_lt (α := ℚ), ← Nat.cast_le (α := ℚ),
    ← Nat.cast_lt (α := ℚ), hn, hs]
  refine ⟨⟨?_, ?_⟩, ?_, ?_⟩ <;> constructor <;> intro h <;> linarith

theorem holds_iff (hm : mantissa ≠ 0) :
    (ofDouble mantissa exponent).holds digits grid = true ↔
      Within (digits * 10 ^ grid) mantissa exponent := by
  obtain ⟨⟨hl, hl'⟩, -⟩ := compare_iff (cast_low hm exponent) digits grid
  obtain ⟨-, hh, hh'⟩ := compare_iff (cast_high mantissa exponent) digits grid
  by_cases hc : mantissa % 2 = 0
  · have hcheck : (ofDouble mantissa exponent).closed = true := decide_eq_true hc
    simp only [holds, hcheck, if_true, Bool.and_eq_true, decide_eq_true_eq]
    constructor
    · rintro ⟨h₁, h₂⟩
      exact ⟨hl.mp h₁, hh.mp h₂, fun h => by omega⟩
    · rintro ⟨h₁, h₂, -⟩
      exact ⟨hl.mpr h₁, hh.mpr h₂⟩
  · have hcheck : (ofDouble mantissa exponent).closed = false := decide_eq_false hc
    simp only [holds, hcheck, Bool.false_eq_true, if_false, Bool.and_eq_true, decide_eq_true_eq]
    constructor
    · rintro ⟨h₁, h₂⟩
      have h₁' := hl'.mp h₁
      have h₂' := hh'.mp h₂
      exact ⟨h₁'.le, h₂'.le, fun _ => ⟨h₁', h₂'⟩⟩
    · rintro ⟨-, -, h⟩
      obtain ⟨h₁, h₂⟩ := h (by omega)
      exact ⟨hl'.mpr h₁, hh'.mpr h₂⟩

-- ---------------------------------------------------------------------------
-- Grids
-- ---------------------------------------------------------------------------

theorem holds_of_neighbour? {interval : Interval} (h : interval.neighbour? grid = some digits) :
    interval.holds digits grid = true := by
  simp only [neighbour?] at h
  split at h
  · next hb ha =>
    have h₁ := Binary64.div_le_roundDiv (interval.num * tenTo (-grid).toNat)
      (interval.den * tenTo grid.toNat)
    have h₂ := Binary64.roundDiv_le_succ (interval.num * tenTo (-grid).toNat)
      (interval.den * tenTo grid.toNat)
    obtain rfl := Option.some.inj h
    rcases Nat.eq_or_lt_of_le h₁ with he | hlt
    · rwa [← he]
    · rwa [Nat.le_antisymm h₂ hlt]
  · next hb _ =>
    obtain rfl := Option.some.inj h
    exact hb
  · next _ ha =>
    obtain rfl := Option.some.inj h
    exact ha
  · cases h

theorem within_of_le (hl : (mantissa - below mantissa exponent) * 2 ^ exponent < value)
    (hu : value ≤ mantissa * 2 ^ exponent) : Within value mantissa exponent := by
  have hp : (0 : ℚ) < 2 ^ exponent := by positivity
  have hu' : value < (mantissa + 1 / 2) * 2 ^ exponent := by linarith
  exact ⟨hl.le, hu'.le, fun _ => ⟨hl, hu'⟩⟩

theorem within_of_ge (hl : mantissa * 2 ^ exponent ≤ value)
    (hu : value < (mantissa + 1 / 2) * 2 ^ exponent) : Within value mantissa exponent := by
  have hp : (0 : ℚ) < 2 ^ exponent := by positivity
  have hb : 0 < below mantissa exponent := by
    rw [below]
    split <;> norm_num
  have hl' : (mantissa - below mantissa exponent) * 2 ^ exponent < value := by nlinarith
  exact ⟨hl'.le, hu.le, fun _ => ⟨hl', hu⟩⟩

theorem floor_point (mantissa : Nat) (exponent grid : Int) :
    let interval := ofDouble mantissa exponent
    let point := interval.num * tenTo (-grid).toNat / (interval.den * tenTo grid.toNat)
    (point : ℚ) * 10 ^ grid ≤ mantissa * 2 ^ exponent ∧
      (mantissa : ℚ) * 2 ^ exponent < (point + 1 : Nat) * 10 ^ grid := by
  intro interval point
  obtain ⟨num, hnum⟩ : ∃ num, num = interval.num * tenTo (-grid).toNat := ⟨_, rfl⟩
  obtain ⟨den, hden⟩ : ∃ den, den = interval.den * tenTo grid.toNat := ⟨_, rfl⟩
  have hpos : 0 < den := by
    rw [hden]
    exact Nat.mul_pos (den_pos _ _) (tenTo_pos _)
  have hpow : (0 : ℚ) < 10 ^ grid := by positivity
  have hquot : (mantissa : ℚ) * 2 ^ exponent = num / den * 10 ^ grid := by
    rw [← num_div_den, hnum, hden, Nat.cast_mul, Nat.cast_mul, cast_tenTo, cast_tenTo,
      zpow_eq_div 10]
    field_simp
    rfl
  have hpoint : point = num / den := by rw [hnum, hden]
  rw [hquot, hpoint]
  refine ⟨?_, ?_⟩
  · gcongr
    exact Nat.cast_div_le
  · gcongr
    rw [div_lt_iff₀ (by exact_mod_cast hpos)]
    exact_mod_cast Nat.lt_mul_of_div_lt (Nat.lt_succ_self _) hpos

/-- A grid whose step is shorter than the interval has a point in it next to the double. -/
theorem neighbour?_ne_none (hm : mantissa ≠ 0)
    (hs : (10 : ℚ) ^ grid < (below mantissa exponent + 1 / 2) * 2 ^ exponent) :
    (ofDouble mantissa exponent).neighbour? grid ≠ none := by
  intro h
  obtain ⟨hbelow, habove⟩ := floor_point mantissa exponent grid
  simp only [neighbour?] at h
  generalize (ofDouble mantissa exponent).num * tenTo (-grid).toNat /
    ((ofDouble mantissa exponent).den * tenTo grid.toNat) = point at h hbelow habove
  have hout : ¬ Within (point * 10 ^ grid) mantissa exponent ∧
      ¬ Within ((point + 1 : Nat) * 10 ^ grid) mantissa exponent := by
    rw [← holds_iff hm, ← holds_iff hm]
    split at h <;> simp_all
  obtain ⟨hlow, hhigh⟩ := hout
  replace hlow := not_lt.mp fun hl => hlow (within_of_le hl hbelow)
  replace hhigh := not_lt.mp fun hu => hhigh (within_of_ge habove.le hu)
  push_cast at hhigh
  linarith

-- ---------------------------------------------------------------------------
-- The search
-- ---------------------------------------------------------------------------

theorem holds_of_search {interval : Interval} {decimal : Scaled}
    (h : interval.search steps grid = some decimal) :
    interval.holds decimal.digits decimal.exponent = true ∧ grid - steps < decimal.exponent := by
  induction steps generalizing grid with
  | zero => cases h
  | succ steps ih =>
    simp only [search] at h
    split at h
    · next hd =>
      obtain rfl := Option.some.inj h
      refine ⟨holds_of_neighbour? hd, ?_⟩
      push_cast
      omega
    · obtain ⟨hh, hg⟩ := ih h
      refine ⟨hh, ?_⟩
      push_cast
      omega

theorem search_ne_none {interval : Interval} {finer : Nat} (hf : finer < steps)
    (h : interval.neighbour? (grid - finer) ≠ none) : interval.search steps grid ≠ none := by
  induction steps generalizing grid finer with
  | zero => omega
  | succ steps ih =>
    simp only [search]
    split
    · simp
    · next hn =>
      cases finer with
      | zero => exact absurd hn (by simpa using h)
      | succ finer =>
        refine ih (Nat.lt_of_succ_lt_succ hf) ?_
        have he : grid - 1 - finer = grid - (finer + 1 : Nat) := by
          push_cast
          omega
        rwa [he]

end Interval

-- ---------------------------------------------------------------------------
-- The first grid
-- ---------------------------------------------------------------------------

/-- The decimal place estimated from a binary one is too high by less than two. -/
theorem ten_zpow_le {place : Int} (hl : -1100 ≤ place) (hu : place ≤ 1100) :
    (10 : ℚ) ^ (place * 30103 / 100000 - 2) ≤ 2 ^ (place - 1) := by
  obtain ⟨guess, hg⟩ : ∃ guess : Int, guess = place * 30103 / 100000 := ⟨_, rfl⟩
  rw [← hg]
  have hguess : guess * 100000 ≤ place * 30103 := by omega
  rcases Int.le_total 1 place with hp | hp
  · -- Three decimal digits take less than ten binary ones.
    refine le_of_pow_le_pow_left₀ (n := 10) (by decide) (by positivity) ?_
    rw [← zpow_natCast, ← zpow_natCast, ← zpow_mul, ← zpow_mul]
    calc (10 : ℚ) ^ ((guess - 2) * (10 : Nat)) ≤ 10 ^ (3 * (place - 1)) :=
          zpow_le_zpow_right₀ (by norm_num) (by push_cast; omega)
      _ = (10 ^ 3) ^ (place - 1) := by rw [zpow_mul]; norm_num
      _ ≤ (2 ^ 10) ^ (place - 1) := zpow_le_zpow_left₀ (by omega) (by norm_num) (by norm_num)
      _ = 2 ^ ((place - 1) * (10 : Nat)) := by rw [mul_comm, zpow_mul]; norm_num
  · -- Twenty-eight decimal digits take more than ninety-three binary ones.
    refine le_of_pow_le_pow_left₀ (n := 93) (by decide) (by positivity) ?_
    rw [← zpow_natCast, ← zpow_natCast, ← zpow_mul, ← zpow_mul]
    calc (10 : ℚ) ^ ((guess - 2) * (93 : Nat)) ≤ 10 ^ (28 * (place - 1)) :=
          zpow_le_zpow_right₀ (by norm_num) (by push_cast; omega)
      _ = (10 ^ 28) ^ (place - 1) := by rw [zpow_mul]; norm_num
      _ ≤ (2 ^ 93) ^ (place - 1) := by
          obtain ⟨n, hn⟩ := Int.eq_ofNat_of_zero_le (by omega : 0 ≤ 1 - place)
          have hneg : place - 1 = -(n : Int) := by omega
          rw [hneg, zpow_neg, zpow_neg, zpow_natCast, zpow_natCast]
          gcongr
          norm_num
      _ = 2 ^ ((place - 1) * (93 : Nat)) := by rw [mul_comm, zpow_mul]; norm_num

theorem leastPower_spec {num den : Nat} (hn : 0 < num) (hd : 0 < den)
    (hl : -1100 ≤ (num.log2 : Int) - den.log2) (hu : (num.log2 : Int) - den.log2 ≤ 1100) :
    (10 : ℚ) ^ (leastPower num den - 1) ≤ num / den ∧ -340 ≤ leastPower num den := by
  obtain ⟨guess, hg⟩ : ∃ guess : Int, guess = ((num.log2 : Int) - den.log2) * 30103 / 100000 :=
    ⟨_, rfl⟩
  have hfirst : (10 : ℚ) ^ (guess - 2) ≤ num / den := by
    rw [hg]
    exact (ten_zpow_le hl hu).trans (Binary64.log2_sub_spec hn hd).1
  have hexceeds : ∀ power : Int, ¬ num * tenTo (-power).toNat < den * tenTo power.toNat →
      (10 : ℚ) ^ power ≤ num / den := by
    intro power h
    rw [mul_comm den, Binary64.mul_lt_mul_iff_div_lt hd (tenTo_pos _), cast_tenTo, cast_tenTo,
      ← zpow_eq_div, not_lt] at h
    exact h
  have hguess : (((num.log2 : Int) - den.log2) * 30103).fdiv 100000 = guess := by
    rw [hg, Int.fdiv_eq_ediv_of_nonneg _ (by decide)]
  have hge : -338 ≤ guess := by omega
  simp only [leastPower, hguess, List.find?]
  -- The power before the one that is found does not exceed the fraction.
  split
  · exact ⟨by simpa [sub_sub] using hfirst, by simp only [Option.getD_some]; omega⟩
  · next h₁ =>
    split
    · exact ⟨hexceeds _ (by simpa using h₁), by simp only [Option.getD_some]; omega⟩
    · next h₂ =>
      split
      · exact ⟨by simpa using hexceeds _ (by simpa using h₂), by simp only [Option.getD_some]; omega⟩
      · next h₃ =>
        refine ⟨?_, by simp only [Option.getD_none]; omega⟩
        have he : guess + 2 - 1 = guess + 1 := by omega
        rw [Option.getD_none, he]
        exact hexceeds _ (by simpa using h₃)

-- ---------------------------------------------------------------------------
-- Shortest decimals
-- ---------------------------------------------------------------------------

theorem double_bounds (hx : IsDouble mantissa exponent) (hm : mantissa ≠ 0) :
    (2 : ℚ) ^ (-1074 : Int) ≤ mantissa * 2 ^ exponent ∧
      (mantissa : ℚ) * 2 ^ exponent < 2 ^ (1024 : Int) := by
  obtain ⟨hlt, hge, hle, -⟩ := hx
  have hone : (1 : ℚ) ≤ mantissa := by exact_mod_cast Nat.one_le_iff_ne_zero.mpr hm
  have hlt' : (mantissa : ℚ) < 2 ^ (53 : Int) := by exact_mod_cast hlt
  refine ⟨?_, ?_⟩
  · calc (2 : ℚ) ^ (-1074 : Int) ≤ 2 ^ exponent := zpow_le_zpow_right₀ (by norm_num) hge
      _ ≤ mantissa * 2 ^ exponent := le_mul_of_one_le_left (by positivity) hone
  · calc (mantissa : ℚ) * 2 ^ exponent < 2 ^ (53 : Int) * 2 ^ exponent := by gcongr
      _ = 2 ^ (53 + exponent) := (zpow_add₀ two_ne_zero _ _).symm
      _ ≤ 2 ^ (1024 : Int) := zpow_le_zpow_right₀ (by norm_num) (by omega)

theorem step_lt (hx : IsDouble mantissa exponent) {power : Int}
    (hp : (10 : ℚ) ^ (power - 1) ≤ mantissa * 2 ^ exponent) :
    (10 : ℚ) ^ (power - 1 - 16) < (below mantissa exponent + 1 / 2) * 2 ^ exponent := by
  have hpow : (0 : ℚ) < 2 ^ exponent := by positivity
  have hwide : (mantissa : ℚ) / 10 ^ 16 < below mantissa exponent + 1 / 2 := by
    have hlt : (mantissa : ℚ) < 2 ^ 53 := by exact_mod_cast hx.lt
    rw [below]
    split
    · next hn =>
      rw [hn.1]
      norm_num
    · rw [div_lt_iff₀ (by norm_num)]
      norm_num at hlt ⊢
      linarith
  calc (10 : ℚ) ^ (power - 1 - 16) = 10 ^ (power - 1) / 10 ^ 16 := by
        rw [zpow_sub₀ (by norm_num)]
        norm_num
    _ ≤ mantissa * 2 ^ exponent / 10 ^ 16 := by gcongr
    _ = mantissa / 10 ^ 16 * 2 ^ exponent := by ring
    _ < (below mantissa exponent + 1 / 2) * 2 ^ exponent := by gcongr

/-- The shortest decimal of a double lies in its interval. -/
theorem within_shortest (hx : IsDouble mantissa exponent) (hm : mantissa ≠ 0) :
    Within (shortest mantissa exponent).toRat mantissa exponent ∧
      -400 ≤ (shortest mantissa exponent).exponent := by
  obtain ⟨interval, hi⟩ : ∃ interval, interval = Interval.ofDouble mantissa exponent := ⟨_, rfl⟩
  have hquot : (interval.num / interval.den : ℚ) = mantissa * 2 ^ exponent := by
    rw [hi]
    exact Interval.num_div_den mantissa exponent
  have hden : 0 < interval.den := by
    rw [hi]
    exact Interval.den_pos mantissa exponent
  have hnum : 0 < interval.num := by
    rw [hi]
    exact Nat.mul_pos (Nat.pos_of_ne_zero hm) (Binary64.twoTo_pos _)
  obtain ⟨hlow, hhigh⟩ := double_bounds hx hm
  obtain ⟨hlow', hhigh'⟩ := Binary64.log2_sub_spec hnum hden
  rw [hquot] at hlow' hhigh'
  have h₁ := (zpow_lt_zpow_iff_right₀ one_lt_two).mp (hlow.trans_lt hhigh')
  have h₂ := (zpow_lt_zpow_iff_right₀ one_lt_two).mp (hlow'.trans_lt hhigh)
  obtain ⟨hpower, hge⟩ := leastPower_spec hnum hden (by omega) (by omega)
  rw [hquot] at hpower
  simp only [shortest, ← hi]
  generalize leastPower interval.num interval.den = power at hpower hge ⊢
  have hfine : interval.neighbour? (power - 1 - (16 : Nat)) ≠ none := by
    rw [hi]
    exact Interval.neighbour?_ne_none hm (step_lt hx hpower)
  have hfound : interval.search 17 (power - 1) ≠ none :=
    Interval.search_ne_none (by decide) hfine
  obtain ⟨decimal, hd⟩ := Option.ne_none_iff_exists'.mp hfound
  obtain ⟨hh, hg⟩ := Interval.holds_of_search hd
  rw [hd, Option.getD_some, toRat_trimmed]
  rw [hi] at hh
  refine ⟨(Interval.holds_iff hm).mp hh, ?_⟩
  have := exponent_le_trimmed decimal
  push_cast at hg
  omega

theorem digits_ne_zero_of_within {decimal : Scaled} (hm : mantissa ≠ 0)
    (hw : Within decimal.toRat mantissa exponent) : decimal.digits ≠ 0 := by
  intro h
  have hpos := Binary64.pos_of_within hm hw
  simp [Scaled.toRat, h] at hpos

theorem shortest_digits_ne_zero (hx : IsDouble mantissa exponent) (hm : mantissa ≠ 0) :
    (shortest mantissa exponent).digits ≠ 0 :=
  digits_ne_zero_of_within hm (within_shortest hx hm).1

-- ---------------------------------------------------------------------------
-- Reading decimals
-- ---------------------------------------------------------------------------

theorem toFloat_eq_nearest (negative : Bool) {decimal : Scaled} (hd : decimal.digits ≠ 0)
    (he : -400 ≤ decimal.exponent) (hv : decimal.toRat < 10 ^ (390 : Int)) :
    toFloat negative decimal =
      Binary64.nearest negative (decimal.digits * tenTo decimal.exponent.toNat)
        (tenTo (-decimal.exponent).toNat) := by
  obtain ⟨digits, exponent⟩ := decimal
  simp only at hd he
  have hplace : ¬ 400 < (digits.log2 : Int) * 30103 / 100000 + exponent := by
    intro hplace
    have hpow : (2 : ℚ) ^ digits.log2 ≤ digits := by exact_mod_cast Nat.log2_self_le hd
    have hten : ((10 : ℚ) ^ (390 : Int)) ^ 10 ≤ (digits * 10 ^ exponent) ^ 10 :=
      calc ((10 : ℚ) ^ (390 : Int)) ^ 10 = 10 ^ (3900 : Int) := by
            rw [← zpow_natCast, ← zpow_mul]
            norm_num
        _ ≤ 10 ^ (3 * digits.log2 + exponent * 10 : Int) :=
            zpow_le_zpow_right₀ (by norm_num) (by omega)
        _ = (10 ^ 3) ^ digits.log2 * (10 ^ exponent) ^ 10 := by
            rw [zpow_add₀ (by norm_num), zpow_mul, zpow_mul]
            norm_cast
        _ ≤ (2 ^ 10) ^ digits.log2 * (10 ^ exponent) ^ 10 := by
            gcongr
            norm_num
        _ = (2 ^ digits.log2 * 10 ^ exponent) ^ 10 := by
            rw [mul_pow, ← pow_mul, ← pow_mul, mul_comm 10]
        _ ≤ (digits * 10 ^ exponent) ^ 10 := by gcongr
    have hnonneg : (0 : ℚ) ≤ digits * 10 ^ exponent := by positivity
    exact absurd hv (not_lt.mpr (le_of_pow_le_pow_left₀ (by decide) hnonneg hten))
  have hnear : ¬ (digits.log2 : Int) * 30103 / 100000 + exponent < -400 := by omega
  simp only [toFloat, hd, hplace, hnear, decide_false, Bool.or_self, Bool.false_eq_true, if_false]

theorem lt_of_within (hx : IsDouble mantissa exponent) (hw : Within value mantissa exponent) :
    value < 10 ^ (390 : Int) := by
  have hlt : (mantissa : ℚ) + 1 / 2 ≤ 2 ^ (54 : Int) := by
    have hm : (mantissa : ℚ) ≤ 2 ^ 53 := by exact_mod_cast hx.lt.le
    refine (add_le_add_left hm _).trans ?_
    norm_num
  calc value ≤ (mantissa + 1 / 2) * 2 ^ exponent := hw.high
    _ ≤ 2 ^ (54 : Int) * 2 ^ exponent := by gcongr
    _ = 2 ^ (54 + exponent) := (zpow_add₀ two_ne_zero _ _).symm
    _ ≤ 2 ^ (8 * 130 : Int) := zpow_le_zpow_right₀ (by norm_num) (by have := hx.le; omega)
    _ = (2 ^ 8) ^ (130 : Int) := by rw [zpow_mul]; norm_cast
    _ < (10 ^ 3) ^ (130 : Int) := zpow_lt_zpow_left₀ (by norm_num) (by norm_num) (by norm_num)
    _ = 10 ^ (390 : Int) := by rw [← zpow_natCast, ← zpow_mul]; norm_num

/-- A decimal in the interval of a double reads as the double. -/
theorem toFloat_of_within {x : Float} {negative : Bool} {decimal : Scaled}
    (hs : Binary64.shape x = .finite negative mantissa exponent) (hm : mantissa ≠ 0)
    (he : -400 ≤ decimal.exponent) (hw : Within decimal.toRat mantissa exponent) :
    toFloat negative decimal = x := by
  obtain ⟨hx, -⟩ := Binary64.bits_of_shape hs
  have hd := digits_ne_zero_of_within hm hw
  have hquot : ((decimal.digits * tenTo decimal.exponent.toNat : Nat) /
      (tenTo (-decimal.exponent).toNat : Nat) : ℚ) = decimal.toRat := by
    rw [Nat.cast_mul, cast_tenTo, cast_tenTo, mul_div_assoc, ← zpow_eq_div, Scaled.toRat]
  rw [toFloat_eq_nearest negative hd he (lt_of_within hx hw)]
  refine Binary64.nearest_of_shape hs (Binary64.nearestBits_of_within hx hm (tenTo_pos _) ?_)
  rwa [hquot]

/-- The shortest decimal of a double, written with any exponent within range, reads as the
double. -/
theorem toFloat_shortest {x : Float} {negative : Bool} {decimal : Scaled}
    (hs : Binary64.shape x = .finite negative mantissa exponent) (hm : mantissa ≠ 0)
    (he : -400 ≤ decimal.exponent) (hv : decimal.toRat = (shortest mantissa exponent).toRat) :
    toFloat negative decimal = x := by
  have hx := (Binary64.bits_of_shape hs).1
  refine toFloat_of_within hs hm he ?_
  rw [hv]
  exact (within_shortest hx hm).1

theorem toFloat_zero {x : Float} {negative : Bool} {decimal : Scaled}
    (hs : Binary64.shape x = .finite negative 0 exponent) (hd : decimal.digits = 0) :
    toFloat negative decimal = x := by
  have hx := (Binary64.bits_of_shape hs).1
  have hmin : exponent = minExponent := by
    by_contra hne
    exact absurd (hx.full (lt_of_le_of_ne hx.ge (Ne.symm hne))) (by decide)
  simp only [toFloat, hd, decide_true, Bool.true_or, if_true]
  refine Binary64.nearest_of_shape hs ?_
  rw [hmin]
  simp [Binary64.nearestBits]

end Retheme.Decimal
