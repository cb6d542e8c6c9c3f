import Mathlib.Tactic.Common
import Retheme.Text.Utf8

/-!
# Bytes of texts

The bytes of a text are read back as the text, and what is read from bytes has
exactly these bytes. So a list of bytes is read when it is the bytes of a text,
and of one text only.
-/

namespace Retheme.Text

variable {bytes rest : List UInt8} {text : Text} {c : Char} {least code n : Nat}

-- ---------------------------------------------------------------------------
-- Parts of a character
-- ---------------------------------------------------------------------------

theorem charAtLeast?_eq_some_iff :
    charAtLeast? least code = some c ↔ least ≤ code ∧ code = c.toNat := by
  rw [charAtLeast?]
  constructor
  · intro h
    split at h
    · next hc =>
      obtain rfl := Option.some.inj h
      refine ⟨hc.1, ?_⟩
      rw [Char.ofNat, dif_pos hc.2]
      rfl
    · cases h
  · rintro ⟨hl, rfl⟩
    rw [if_pos ⟨hl, c.valid⟩, Char.ofNat_toNat]

theorem continuation?_eq_some_iff {byte : UInt8} :
    continuation? byte = some n ↔ byte.toNat = 0x80 + n ∧ n < 0x40 := by
  simp only [continuation?, Bool.and_eq_true, decide_eq_true_eq, UInt8.le_iff_toNat_le,
    UInt8.lt_iff_toNat_lt]
  have h₁ : (0x80 : UInt8).toNat = 0x80 := rfl
  have h₂ : (0xc0 : UInt8).toNat = 0xc0 := rfl
  rw [h₁, h₂]
  split
  · rw [Option.some.injEq]
    omega
  · simp only [reduceCtorEq, false_iff]
    omega

theorem toNat_toUInt8 (hn : n < 0x100) : n.toUInt8.toNat = n := by
  rw [Nat.toUInt8, UInt8.toNat_ofNat', Nat.mod_eq_of_lt hn]

theorem toNat_lt (c : Char) : c.toNat < 0x110000 := by
  rcases c.valid with h | h
  · exact Nat.lt_trans h (by decide)
  · exact h.2

-- ---------------------------------------------------------------------------
-- Characters
-- ---------------------------------------------------------------------------

structure AreTwo (a b : UInt8) (c : Char) : Prop where
  first : a.toNat = 0xc0 + c.toNat / 0x40
  second : b.toNat = 0x80 + c.toNat % 0x40
  range : 0x80 ≤ c.toNat ∧ c.toNat < 0x800

structure AreThree (a b d : UInt8) (c : Char) : Prop where
  first : a.toNat = 0xe0 + c.toNat / 0x1000
  second : b.toNat = 0x80 + c.toNat / 0x40 % 0x40
  third : d.toNat = 0x80 + c.toNat % 0x40
  range : 0x800 ≤ c.toNat ∧ c.toNat < 0x10000

structure AreFour (a b d e : UInt8) (c : Char) : Prop where
  first : a.toNat = 0xf0 + c.toNat / 0x40000
  second : b.toNat = 0x80 + c.toNat / 0x1000 % 0x40
  third : d.toNat = 0x80 + c.toNat / 0x40 % 0x40
  fourth : e.toNat = 0x80 + c.toNat % 0x40
  range : 0x10000 ≤ c.toNat

theorem between_iff {byte : UInt8} (low high : Nat) (hl : low < 0x100) (hh : high < 0x100) :
    (low.toUInt8 ≤ byte && byte < high.toUInt8) = true ↔ low ≤ byte.toNat ∧ byte.toNat < high := by
  rw [Bool.and_eq_true, decide_eq_true_eq, decide_eq_true_eq, UInt8.le_iff_toNat_le,
    UInt8.lt_iff_toNat_lt, toNat_toUInt8 hl, toNat_toUInt8 hh]

variable {a b d e : UInt8}

theorem lt_iff : a < 0x80 ↔ a.toNat < 0x80 := UInt8.lt_iff_toNat_lt

theorem utf8Char_cases (c : Char) :
    (∃ a : UInt8, utf8Char c = [a] ∧ a.toNat = c.toNat ∧ c.toNat < 0x80) ∨
      (∃ a b, utf8Char c = [a, b] ∧ AreTwo a b c) ∨
      (∃ a b d, utf8Char c = [a, b, d] ∧ AreThree a b d c) ∨
      ∃ a b d e, utf8Char c = [a, b, d, e] ∧ AreFour a b d e c := by
  have hlt := toNat_lt c
  by_cases h₁ : c.toNat < 0x80
  · exact .inl ⟨_, by rw [utf8Char, if_pos h₁], toNat_toUInt8 (by omega), h₁⟩
  by_cases h₂ : c.toNat < 0x800
  · refine .inr (.inl ⟨_, _, by rw [utf8Char, if_neg h₁, if_pos h₂], ?_⟩)
    exact ⟨toNat_toUInt8 (by omega), toNat_toUInt8 (by omega), by omega, h₂⟩
  by_cases h₃ : c.toNat < 0x10000
  · refine .inr (.inr (.inl ⟨_, _, _, by rw [utf8Char, if_neg h₁, if_neg h₂, if_pos h₃], ?_⟩))
    exact ⟨toNat_toUInt8 (by omega), toNat_toUInt8 (by omega), toNat_toUInt8 (by omega),
      by omega, h₃⟩
  · refine .inr (.inr (.inr ⟨_, _, _, _, by rw [utf8Char, if_neg h₁, if_neg h₂, if_neg h₃], ?_⟩))
    exact ⟨toNat_toUInt8 (by omega), toNat_toUInt8 (by omega), toNat_toUInt8 (by omega),
      toNat_toUInt8 (by omega), by omega⟩

theorem ofUtf8?_one (ha : a.toNat = c.toNat) (hc : c.toNat < 0x80) :
    ofUtf8? (a :: rest) = (ofUtf8? rest).map (c :: ·) := by
  have h : a < 0x80 := lt_iff.mpr (by rw [ha]; exact hc)
  rw [ofUtf8?.eq_def]
  simp only [if_pos h, ha, Char.ofNat_toNat]

theorem ofUtf8?_two (h : AreTwo a b c) :
    ofUtf8? (a :: b :: rest) = (ofUtf8? rest).map (c :: ·) := by
  obtain ⟨ha, hb, hl, hu⟩ := h
  have h₁ : ¬ a < 0x80 := by rw [lt_iff]; omega
  have h₂ : (0xc0 ≤ a && a < 0xe0) = true :=
    (between_iff 0xc0 0xe0 (by decide) (by decide)).mpr (by omega)
  have hs : continuation? b = some (c.toNat % 0x40) :=
    continuation?_eq_some_iff.mpr ⟨hb, Nat.mod_lt _ (by decide)⟩
  have hc : charAtLeast? 0x80 ((a.toNat - 0xc0) * 0x40 + c.toNat % 0x40) = some c :=
    charAtLeast?_eq_some_iff.mpr ⟨by omega, by omega⟩
  rw [ofUtf8?.eq_def]
  dsimp only
  rw [if_neg h₁, if_pos h₂, hs]
  simp only [Option.bind_eq_bind, Option.bind_some]
  rw [hc, Option.map_eq_bind]
  rfl

theorem ofUtf8?_three (h : AreThree a b d c) :
    ofUtf8? (a :: b :: d :: rest) = (ofUtf8? rest).map (c :: ·) := by
  obtain ⟨ha, hb, hd, hl, hu⟩ := h
  have h₁ : ¬ a < 0x80 := by rw [lt_iff]; omega
  have h₂ : ¬ (0xc0 ≤ a && a < 0xe0) = true := fun h =>
    absurd ((between_iff 0xc0 0xe0 (by decide) (by decide)).mp h) (by omega)
  have h₃ : (0xe0 ≤ a && a < 0xf0) = true :=
    (between_iff 0xe0 0xf0 (by decide) (by decide)).mpr (by omega)
  have hs : continuation? b = some (c.toNat / 0x40 % 0x40) :=
    continuation?_eq_some_iff.mpr ⟨hb, Nat.mod_lt _ (by decide)⟩
  have ht : continuation? d = some (c.toNat % 0x40) :=
    continuation?_eq_some_iff.mpr ⟨hd, Nat.mod_lt _ (by decide)⟩
  have hc : charAtLeast? 0x800 ((a.toNat - 0xe0) * 0x1000 + c.toNat / 0x40 % 0x40 * 0x40 +
      c.toNat % 0x40) = some c := charAtLeast?_eq_some_iff.mpr ⟨by omega, by omega⟩
  rw [ofUtf8?.eq_def]
  dsimp only
  rw [if_neg h₁, if_neg h₂, if_pos h₃, hs, ht]
  simp only [Option.bind_eq_bind, Option.bind_some]
  rw [hc, Option.map_eq_bind]
  rfl

theorem ofUtf8?_four (h : AreFour a b d e c) :
    ofUtf8? (a :: b :: d :: e :: rest) = (ofUtf8? rest).map (c :: ·) := by
  obtain ⟨ha, hb, hd, he, hl⟩ := h
  have hlt := toNat_lt c
  have h₁ : ¬ a < 0x80 := by rw [lt_iff]; omega
  have h₂ : ¬ (0xc0 ≤ a && a < 0xe0) = true := fun h =>
    absurd ((between_iff 0xc0 0xe0 (by decide) (by decide)).mp h) (by omega)
  have h₃ : ¬ (0xe0 ≤ a && a < 0xf0) = true := fun h =>
    absurd ((between_iff 0xe0 0xf0 (by decide) (by decide)).mp h) (by omega)
  have h₄ : (0xf0 ≤ a && a < 0xf8) = true :=
    (between_iff 0xf0 0xf8 (by decide) (by decide)).mpr (by omega)
  have hs : continuation? b = some (c.toNat / 0x1000 % 0x40) :=
    continuation?_eq_some_iff.mpr ⟨hb, Nat.mod_lt _ (by decide)⟩
  have ht : continuation? d = some (c.toNat / 0x40 % 0x40) :=
    continuation?_eq_some_iff.mpr ⟨hd, Nat.mod_lt _ (by decide)⟩
  have hf : continuation? e = some (c.toNat % 0x40) :=
    continuation?_eq_some_iff.mpr ⟨he, Nat.mod_lt _ (by decide)⟩
  have hc : charAtLeast? 0x10000 ((a.toNat - 0xf0) * 0x40000 + c.toNat / 0x1000 % 0x40 * 0x1000 +
      c.toNat / 0x40 % 0x40 * 0x40 + c.toNat % 0x40) = some c :=
    charAtLeast?_eq_some_iff.mpr ⟨by omega, by omega⟩
  rw [ofUtf8?.eq_def]
  dsimp only
  rw [if_neg h₁, if_neg h₂, if_neg h₃, if_pos h₄, hs, ht, hf]
  rw [Option.bind_eq_bind, Option.bind_some, Option.bind_eq_bind, Option.bind_some,
    Option.bind_eq_bind, Option.bind_some]
  rw [hc, Option.bind_some, Option.map_eq_bind]
  rfl

theorem ofUtf8?_utf8Char (c : Char) (rest : List UInt8) :
    ofUtf8? (utf8Char c ++ rest) = (ofUtf8? rest).map (c :: ·) := by
  rcases utf8Char_cases c with ⟨a, hu, ha, hc⟩ | ⟨a, b, hu, h⟩ | ⟨a, b, d, hu, h⟩ |
    ⟨a, b, d, e, hu, h⟩ <;> rw [hu]
  · exact ofUtf8?_one ha hc
  · exact ofUtf8?_two h
  · exact ofUtf8?_three h
  · exact ofUtf8?_four h

theorem ofUtf8?_utf8 (text : Text) : ofUtf8? text.utf8 = some text := by
  induction text with
  | nil => rfl
  | cons c rest ih =>
    have hs : utf8 (c :: rest) = utf8Char c ++ utf8 rest := List.flatMap_cons
    rw [hs, ofUtf8?_utf8Char, ih]
    rfl

-- ---------------------------------------------------------------------------
-- Bytes
-- ---------------------------------------------------------------------------

theorem toUInt8_eq (h : a.toNat = n) : n.toUInt8 = a := by
  rw [← h]
  exact UInt8.toNat_inj.mp (toNat_toUInt8 a.toNat_lt)

theorem utf8Char_one (ha : a < 0x80) : utf8Char (Char.ofNat a.toNat) = [a] := by
  have hn : (Char.ofNat a.toNat).toNat = a.toNat := by
    have hv : Nat.isValidChar a.toNat := .inl (Nat.lt_trans (lt_iff.mp ha) (by decide))
    rw [Char.ofNat, dif_pos hv]
    rfl
  rw [utf8Char, hn, if_pos (lt_iff.mp ha), toUInt8_eq rfl]

theorem utf8Char_two (h : AreTwo a b c) : utf8Char c = [a, b] := by
  obtain ⟨ha, hb, hl, hu⟩ := h
  rw [utf8Char, if_neg (by omega), if_pos hu, toUInt8_eq ha, toUInt8_eq hb]

theorem utf8Char_three (h : AreThree a b d c) : utf8Char c = [a, b, d] := by
  obtain ⟨ha, hb, hd, hl, hu⟩ := h
  rw [utf8Char, if_neg (by omega), if_neg (by omega), if_pos hu, toUInt8_eq ha, toUInt8_eq hb,
    toUInt8_eq hd]

theorem utf8Char_four (h : AreFour a b d e c) : utf8Char c = [a, b, d, e] := by
  obtain ⟨ha, hb, hd, he, hl⟩ := h
  rw [utf8Char, if_neg (by omega), if_neg (by omega), if_neg (by omega), toUInt8_eq ha,
    toUInt8_eq hb, toUInt8_eq hd, toUInt8_eq he]

theorem utf8_cons (c : Char) (text : Text) : utf8 (c :: text) = utf8Char c ++ utf8 text :=
  List.flatMap_cons

theorem utf8_of_ofUtf8? (h : ofUtf8? bytes = some text) : utf8 text = bytes := by
  fun_induction ofUtf8? bytes generalizing text with
  | case1 =>
    cases h
    rfl
  | case2 a rest ha ih =>
    obtain ⟨more, hm, rfl⟩ := Option.map_eq_some_iff.mp h
    rw [utf8_cons, utf8Char_one ha, ih hm]
    rfl
  | case4 a ha b rest hlead ih =>
    simp only [Option.bind_eq_bind, Option.bind_eq_some_iff, Option.pure_def, Option.some.injEq,
      continuation?_eq_some_iff, charAtLeast?_eq_some_iff] at h
    obtain ⟨n, hs, c, hc, more, hm, rfl⟩ := h
    have hl := (between_iff 0xc0 0xe0 (by decide) (by decide)).mp hlead
    have hb : AreTwo a b c := ⟨by omega, by omega, by omega, by omega⟩
    rw [utf8_cons, utf8Char_two hb, ih hm]
    rfl
  | case6 a ha b hlead d rest hlead' ih =>
    simp only [Option.bind_eq_bind, Option.bind_eq_some_iff, Option.pure_def, Option.some.injEq,
      continuation?_eq_some_iff, charAtLeast?_eq_some_iff] at h
    obtain ⟨n, hs, m, ht, c, hc, more, hm, rfl⟩ := h
    have hl := (between_iff 0xe0 0xf0 (by decide) (by decide)).mp hlead'
    have hb : AreThree a b d c := ⟨by omega, by omega, by omega, by omega, by omega⟩
    rw [utf8_cons, utf8Char_three hb, ih hm]
    rfl
  | case8 a ha b hlead d hlead' e rest hlead'' ih =>
    simp only [Option.bind_eq_bind, Option.bind_eq_some_iff, Option.pure_def, Option.some.injEq,
      continuation?_eq_some_iff, charAtLeast?_eq_some_iff] at h
    obtain ⟨n, hs, m, ht, k, hf, c, hc, more, hm, rfl⟩ := h
    have hl := (between_iff 0xf0 0xf8 (by decide) (by decide)).mp hlead''
    have hb : AreFour a b d e c := ⟨by omega, by omega, by omega, by omega, by omega⟩
    rw [utf8_cons, utf8Char_four hb, ih hm]
    rfl
  | _ => cases h

/-- Bytes are read exactly when they are the bytes of a text. -/
theorem ofUtf8?_eq_some_iff : ofUtf8? bytes = some text ↔ bytes = utf8 text := by
  constructor
  · exact fun h => (utf8_of_ofUtf8? h).symm
  · rintro rfl
    exact ofUtf8?_utf8 text

-- ---------------------------------------------------------------------------
-- Lines
-- ---------------------------------------------------------------------------

theorem normalizeLines_of_not_mem (h : '\r' ∉ text) : text.normalizeLines = text := by
  fun_induction normalizeLines text with
  | case1 => simp at h
  | case2 => simp at h
  | case3 c rest _ _ ih => rw [ih fun hm => h (List.mem_cons_of_mem _ hm)]
  | case4 => rfl

end Retheme.Text
