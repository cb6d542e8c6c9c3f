import Mathlib.Data.List.Nodup
import Retheme.Function.Recolor
import Retheme.Proofs.Text.HexDigit

/-!
# Colours replaced in a text

A colour occurs in a text as its six digits in any letter case, with a number
sign in front or not. Replacing colours at once passes over the text from left
to right and puts a colour of its own in the place of every occurrence. The
replacement of one colour is such a pass.
-/

namespace Retheme.Function

open Text (isHexDigit hexValue?)

-- ---------------------------------------------------------------------------
-- Occurrences
-- ---------------------------------------------------------------------------

def SameDigits (digits same : Text) : Prop := same.map hexValue? = digits.map hexValue?

def Writes (digits written : Text) : Prop :=
  SameDigits digits written ∨ ∃ same, written = '#' :: same ∧ SameDigits digits same

/-- A colour that is sought, and the colour in its place, which a number sign leads. -/
structure Pair where
  sought : Text
  length_eq : sought.length = 6
  sought_hex : ∀ c ∈ sought, isHexDigit c = true
  digits : Text
  digits_hex : ∀ c ∈ digits, isHexDigit c = true

def Pair.color (pair : Pair) : Text := '#' :: pair.digits

def Pair.Leads (pair : Pair) (text : Text) : Prop :=
  ∃ written back, Writes pair.sought written ∧ text = written ++ back

def Pair.OccursIn (pair : Pair) (text : Text) : Prop :=
  ∃ front same back, SameDigits pair.sought same ∧ text = front ++ same ++ back

/-- One text is the other with a colour in the place of every occurrence of the pairs, from left to
right. -/
inductive Recolors (pairs : List Pair) (color : Pair → Text) : Text → Text → Prop
  | nil : Recolors pairs color [] []
  | replace {pair : Pair} {written back result : Text} (hp : pair ∈ pairs)
      (hw : Writes pair.sought written) (h : Recolors pairs color back result) :
      Recolors pairs color (written ++ back) (color pair ++ result)
  | keep {c : Char} {back result : Text} (hn : ∀ pair ∈ pairs, ¬ pair.Leads (c :: back))
      (h : Recolors pairs color back result) : Recolors pairs color (c :: back) (c :: result)

variable {pair other : Pair} {c : Char} {text back written same digits : Text} {color : Pair → Text}

theorem SameDigits.length_eq (h : SameDigits digits same) : same.length = digits.length := by
  simpa using congrArg List.length h

theorem SameDigits.isHexDigit (h : SameDigits digits same)
    (hd : ∀ c ∈ digits, isHexDigit c = true) : ∀ c ∈ same, isHexDigit c = true := by
  intro c hc
  have hmem : hexValue? c ∈ digits.map hexValue? := h ▸ List.mem_map_of_mem hc
  obtain ⟨d, hd', he⟩ := List.mem_map.mp hmem
  rw [Text.isHexDigit, ← he]
  exact hd d hd'

theorem Pair.same_length (h : SameDigits pair.sought same) : same.length = 6 :=
  h.length_eq.trans pair.length_eq

theorem Pair.same_hex (h : SameDigits pair.sought same) : ∀ c ∈ same, isHexDigit c = true :=
  h.isHexDigit pair.sought_hex

theorem sign_not_hex : isHexDigit '#' = false := by decide

theorem sign_not_mem (h : ∀ c ∈ text, isHexDigit c = true) : '#' ∉ text :=
  fun hm => absurd (h _ hm) (by decide)

theorem Pair.written_cases (h : Writes pair.sought written) : ∃ first more,
    written = first :: more ∧ (first = '#' ∨ isHexDigit first = true) ∧
      (∀ c ∈ more, isHexDigit c = true) := by
  rcases h with h | ⟨same, rfl, h⟩
  · cases written with
    | nil => exact absurd (Pair.same_length h) (by decide)
    | cons first more =>
      have hhex := Pair.same_hex h
      exact ⟨first, more, rfl, .inr (hhex first (by simp)),
        fun c hc => hhex c (List.mem_cons_of_mem _ hc)⟩
  · exact ⟨'#', same, rfl, .inl rfl, Pair.same_hex h⟩

theorem Pair.OccursIn.cons (h : pair.OccursIn text) (c : Char) : pair.OccursIn (c :: text) := by
  obtain ⟨front, same, back, hs, rfl⟩ := h
  exact ⟨c :: front, same, back, hs, rfl⟩

theorem Pair.OccursIn.append_left (h : pair.OccursIn back) (front : Text) :
    pair.OccursIn (front ++ back) := by
  obtain ⟨before, same, after, hs, rfl⟩ := h
  exact ⟨front ++ before, same, after, hs, by simp⟩

theorem Pair.Leads.occursIn (h : pair.Leads text) : pair.OccursIn text := by
  obtain ⟨written, back, hw, rfl⟩ := h
  rcases hw with hw | ⟨same, rfl, hw⟩
  · exact ⟨[], written, back, hw, rfl⟩
  · exact ⟨['#'], same, back, hw, rfl⟩

/-- A text is read from left to right by occurrences and characters that no colour stands at. -/
theorem reading_induction (pairs : List Pair) {motive : Text → Prop} (nil : motive [])
    (replace : ∀ pair ∈ pairs, ∀ written back, Writes pair.sought written → motive back →
      motive (written ++ back))
    (keep : ∀ c back, (∀ pair ∈ pairs, ¬ pair.Leads (c :: back)) → motive back →
      motive (c :: back)) (text : Text) : motive text := by
  induction hlen : text.length using Nat.strongRecOn generalizing text with
  | ind length ih =>
    cases text with
    | nil => exact nil
    | cons c rest =>
      by_cases hlead : ∃ pair ∈ pairs, pair.Leads (c :: rest)
      · obtain ⟨pair, hp, written, back, hw, he⟩ := hlead
        have hshort : back.length < length := by
          obtain ⟨first, more, rfl, -, -⟩ := Pair.written_cases hw
          rw [← hlen, he]
          simp only [List.cons_append, List.length_cons, List.length_append]
          omega
        exact he ▸ replace pair hp written back hw (ih _ hshort back rfl)
      · have hn : ∀ pair ∈ pairs, ¬ pair.Leads (c :: rest) := fun pair hp h => hlead ⟨pair, hp, h⟩
        exact keep c rest hn (ih _ (by simp [← hlen]) rest rfl)

-- ---------------------------------------------------------------------------
-- One pass
-- ---------------------------------------------------------------------------

theorem startsWithLetters_iff (hd : ∀ c ∈ digits, isHexDigit c = true) :
    startsWithLetters digits text = true ↔ ∃ same back, SameDigits digits same ∧
      text = same ++ back := by
  induction digits generalizing text with
  | nil => exact iff_of_true rfl ⟨[], text, rfl, rfl⟩
  | cons d digits ih =>
    cases text with
    | nil =>
      refine iff_of_false (by simp [startsWithLetters]) ?_
      rintro ⟨same, back, hs, he⟩
      obtain ⟨rfl, -⟩ := List.append_eq_nil_iff.mp he.symm
      cases hs
    | cons c text =>
      rw [startsWithLetters, Bool.and_eq_true, Text.sameLetter_iff (hd d (by simp)),
        ih fun c hc => hd c (List.mem_cons_of_mem _ hc)]
      constructor
      · rintro ⟨hc, same, back, hs, rfl⟩
        exact ⟨c :: same, back, congrArg₂ List.cons hc hs, rfl⟩
      · rintro ⟨same, back, hs, he⟩
        cases same with
        | nil => cases hs
        | cons first same =>
          obtain ⟨rfl, rfl⟩ := List.cons.inj he
          obtain ⟨hc, hs⟩ := List.cons.inj hs
          exact ⟨hc, same, back, hs, rfl⟩

theorem Pair.sought_ne_nil (pair : Pair) : pair.sought.isEmpty = false := by
  cases h : pair.sought with
  | nil => exact absurd pair.length_eq (by simp [h])
  | cons => rfl

theorem occurrence?_written (hw : Writes pair.sought written) (back : Text) :
    occurrence? pair.sought (written ++ back) = some written.length := by
  have hstarts : ∀ {same : Text}, SameDigits pair.sought same →
      startsWithLetters pair.sought (same ++ back) = true :=
    fun hs => (startsWithLetters_iff pair.sought_hex).mpr ⟨_, back, hs, rfl⟩
  rcases hw with hw | ⟨same, rfl, hs⟩
  · obtain ⟨first, more, rfl, -, -⟩ := Pair.written_cases (.inl hw)
    have hfirst : first ≠ '#' := by
      rintro rfl
      exact sign_not_mem (Pair.same_hex hw) List.mem_cons_self
    have hlead := hstarts hw
    rw [List.cons_append] at hlead ⊢
    rw [occurrence?, if_neg (by simp [hfirst]), if_pos hlead, Pair.same_length hw, pair.length_eq]
  · rw [List.cons_append, occurrence?, if_pos (by simp [hstarts hs]), List.length_cons,
      hs.length_eq]

theorem occurrence?_eq_none (hn : ¬ pair.Leads (c :: text)) :
    occurrence? pair.sought (c :: text) = none := by
  have hsign : ¬ (c = '#' ∧ startsWithLetters pair.sought text = true) := by
    rintro ⟨rfl, hstarts⟩
    obtain ⟨same, back, hs, rfl⟩ := (startsWithLetters_iff pair.sought_hex).mp hstarts
    exact hn ⟨'#' :: same, back, .inr ⟨same, rfl, hs⟩, rfl⟩
  have hbare : ¬ startsWithLetters pair.sought (c :: text) = true := by
    intro hstarts
    obtain ⟨same, back, hs, he⟩ := (startsWithLetters_iff pair.sought_hex).mp hstarts
    exact hn ⟨same, back, .inl hs, he⟩
  rw [occurrence?, if_neg (by simpa using hsign), if_neg hbare]

def Pair.pass (pair : Pair) (text : Text) : Text := replaceLetters pair.sought pair.color text

theorem Pair.pass_nil (pair : Pair) : pair.pass [] = [] := by
  rw [Pair.pass, replaceLetters, pair.sought_ne_nil, if_neg Bool.false_ne_true]

theorem Pair.pass_replace (hw : Writes pair.sought written) (back : Text) :
    pair.pass (written ++ back) = pair.color ++ pair.pass back := by
  have hfound := occurrence?_written hw back
  obtain ⟨first, more, rfl, -, -⟩ := Pair.written_cases hw
  rw [List.cons_append] at hfound ⊢
  rw [Pair.pass, replaceLetters, hfound]
  simp only [List.length_cons, List.drop_left, Pair.pass]

theorem Pair.pass_keep (hn : ¬ pair.Leads (c :: text)) :
    pair.pass (c :: text) = c :: pair.pass text := by
  rw [Pair.pass, replaceLetters, occurrence?_eq_none hn]
  rfl

/-- The replacement of one colour is a pass that puts it in the place of every occurrence. -/
theorem recolors_single_iff {result : Text} :
    Recolors [pair] Pair.color text result ↔ pair.pass text = result := by
  constructor
  · intro h
    induction h with
    | nil => exact pair.pass_nil
    | replace hp hw h ih =>
      obtain rfl := List.mem_singleton.mp hp
      rw [Pair.pass_replace hw, ih]
    | keep hn h ih => rw [Pair.pass_keep (hn pair (List.mem_singleton_self pair)), ih]
  · rintro rfl
    induction text using reading_induction [pair] with
    | nil =>
      rw [Pair.pass_nil]
      exact .nil
    | replace other ho written back hw ih =>
      obtain rfl := List.mem_singleton.mp ho
      rw [Pair.pass_replace hw]
      exact .replace ho hw ih
    | keep c back hn ih =>
      rw [Pair.pass_keep (hn pair (List.mem_singleton_self pair))]
      exact .keep hn ih

end Retheme.Function
