import Retheme.Proofs.Sheet.CanonicalName
import Retheme.Proofs.Text.Pieces

/-!
# Parts of a canonical name

A canonical name is made part by part: what stands between two top-level commas
has its runs of spaces squeezed and its ends trimmed. Spaces put into a part
leave no trace beside another space and at its ends; anywhere else they make
the part longer by one space.
-/

namespace Retheme.Sheet

variable {a b text piece : Text} {c : Char}

-- ---------------------------------------------------------------------------
-- One part
-- ---------------------------------------------------------------------------

def namePart (piece : Text) : Text := Text.trim isSelectorBlank (squeezeSpaces piece)

theorem namePart_cons (hc : isSelectorBlank c = true) (piece : Text) :
    namePart (c :: piece) = namePart piece := by
  by_cases hd : c = ' ' ∧ piece.head? = some ' '
  · obtain ⟨rfl, hp⟩ := hd
    obtain ⟨rest, rfl⟩ := List.head?_eq_some_iff.mp hp
    rw [namePart, squeezeSpaces_double, namePart]
  · rw [namePart, squeezeSpaces_cons fun he hp => hd ⟨he, hp⟩, Text.trim_cons_of_pos hc, namePart]

theorem namePart_append_left (h : ∀ c ∈ a, isSelectorBlank c = true) (b : Text) :
    namePart (a ++ b) = namePart b := by
  induction a with
  | nil => rfl
  | cons c a ih =>
    rw [List.cons_append, namePart_cons (h c List.mem_cons_self),
      ih fun d hd => h d (List.mem_cons_of_mem _ hd)]

theorem namePart_snoc (hc : isSelectorBlank c = true) (piece : Text) :
    namePart (piece ++ [c]) = namePart piece := by
  by_cases hd : piece.getLast? = some ' ' ∧ c = ' '
  · obtain ⟨hl, rfl⟩ := hd
    obtain ⟨front, rfl⟩ := List.getLast?_eq_some_iff.mp hl
    rw [List.append_assoc, List.singleton_append, namePart, squeezeSpaces_append_double, namePart]
  · have hs : piece.getLast? = some ' ' → ([c] : Text).head? ≠ some ' ' := fun hl hc =>
      hd ⟨hl, Option.some.inj hc⟩
    have hsingle : squeezeSpaces [c] = [c] := squeezeSpaces_cons (by simp)
    rw [namePart, squeezeSpaces_append hs, hsingle, Text.trim_append_right _ (by simpa using hc),
      namePart]

theorem namePart_append_right (a : Text) (h : ∀ c ∈ b, isSelectorBlank c = true) :
    namePart (a ++ b) = namePart a := by
  induction b generalizing a with
  | nil => rw [List.append_nil]
  | cons c b ih =>
    rw [List.append_cons, ih _ fun d hd => h d (List.mem_cons_of_mem _ hd),
      namePart_snoc (h c List.mem_cons_self)]

-- ---------------------------------------------------------------------------
-- Spaces in a part
-- ---------------------------------------------------------------------------

theorem isSelectorBlank_of_mem_spaces {n : Nat} (h : c ∈ List.replicate n ' ') :
    isSelectorBlank c = true := by
  rw [List.eq_of_mem_replicate h]
  rfl

/-- A place of a part with a space on one side, or with nothing but selector blanks. -/
def Absorbs (a b : Text) : Prop :=
  a.getLast? = some ' ' ∨ b.head? = some ' ' ∨ (∀ c ∈ a, isSelectorBlank c = true) ∨
    ∀ c ∈ b, isSelectorBlank c = true

instance (a b : Text) : Decidable (Absorbs a b) := inferInstanceAs (Decidable (_ ∨ _))

theorem squeezeSpaces_spaces (a b : Text) (n : Nat) :
    squeezeSpaces (a ++ (List.replicate (n + 1) ' ' ++ b)) = squeezeSpaces (a ++ ' ' :: b) := by
  induction n with
  | zero => rfl
  | succ n ih =>
    rw [List.replicate_succ, List.replicate_succ, List.cons_append, List.cons_append,
      squeezeSpaces_append_double, ← ih, List.replicate_succ, List.cons_append]

theorem namePart_spaces (h : Absorbs a b) (n : Nat) :
    namePart (a ++ (List.replicate (n + 1) ' ' ++ b)) = namePart (a ++ b) := by
  rcases h with ha | hb | ha | hb
  · obtain ⟨front, rfl⟩ := List.getLast?_eq_some_iff.mp ha
    rw [namePart, squeezeSpaces_spaces, List.append_assoc, List.append_assoc, List.singleton_append,
      squeezeSpaces_append_double, List.singleton_append, namePart]
  · obtain ⟨rest, rfl⟩ := List.head?_eq_some_iff.mp hb
    rw [namePart, squeezeSpaces_spaces, squeezeSpaces_append_double, namePart]
  · have hs : ∀ c ∈ a ++ List.replicate (n + 1) ' ', isSelectorBlank c = true := by
      intro c hc
      rcases List.mem_append.mp hc with hc | hc
      · exact ha c hc
      · exact isSelectorBlank_of_mem_spaces hc
    rw [← List.append_assoc, namePart_append_left hs, namePart_append_left ha]
  · have hs : ∀ c ∈ List.replicate (n + 1) ' ' ++ b, isSelectorBlank c = true := by
      intro c hc
      rcases List.mem_append.mp hc with hc | hc
      · exact isSelectorBlank_of_mem_spaces hc
      · exact hb c hc
    rw [namePart_append_right a hs, namePart_append_right a hb]

theorem exists_squeezeSpaces (h : ∃ c ∈ text, isSelectorBlank c = false) :
    ∃ c ∈ squeezeSpaces text, isSelectorBlank c = false := by
  obtain ⟨c, hc, hb⟩ := h
  refine ⟨c, mem_squeezeSpaces ?_ hc, hb⟩
  rintro rfl
  cases hb

theorem length_namePart_spaces (h : ¬ Absorbs a b) (n : Nat) :
    (namePart (a ++ (List.replicate (n + 1) ' ' ++ b))).length = (namePart (a ++ b)).length + 1 := by
  simp only [Absorbs, not_or, not_forall, Bool.not_eq_true, exists_prop] at h
  obtain ⟨hla, hhb, ha, hb⟩ := h
  have hsa := exists_squeezeSpaces ha
  have hsb := exists_squeezeSpaces hb
  have hspace : ∃ c ∈ ' ' :: squeezeSpaces b, isSelectorBlank c = false := by
    obtain ⟨c, hc, hn⟩ := hsb
    exact ⟨c, List.mem_cons_of_mem _ hc, hn⟩
  have hend : Text.dropEndWhile isSelectorBlank (' ' :: squeezeSpaces b) =
      ' ' :: Text.dropEndWhile isSelectorBlank (squeezeSpaces b) :=
    Text.dropEndWhile_append_of_exists [' '] hsb
  have hwith : namePart (a ++ (List.replicate (n + 1) ' ' ++ b)) =
      (squeezeSpaces a).dropWhile isSelectorBlank ++
        ' ' :: Text.dropEndWhile isSelectorBlank (squeezeSpaces b) := by
    rw [namePart, squeezeSpaces_spaces, squeezeSpaces_append fun hl => absurd hl hla,
      squeezeSpaces_cons fun _ => hhb, Text.trim_append hsa hspace, hend]
  have hwithout : namePart (a ++ b) = (squeezeSpaces a).dropWhile isSelectorBlank ++
      Text.dropEndWhile isSelectorBlank (squeezeSpaces b) := by
    rw [namePart, squeezeSpaces_append fun hl => absurd hl hla, Text.trim_append hsa hsb]
  rw [hwith, hwithout, List.length_append, List.length_cons, List.length_append, Nat.add_assoc]

-- ---------------------------------------------------------------------------
-- All parts
-- ---------------------------------------------------------------------------

theorem split_squeezeSpaces {brackets : Brackets} {separator : Char} {nesting : Nesting}
    (hs : Nesting.isPlain brackets (some separator) ' ' = true) (hn : nesting.IsProper)
    (text : Text) :
    nesting.split brackets separator (squeezeSpaces text) =
      (nesting.split brackets separator text).map squeezeSpaces := by
  induction text generalizing nesting with
  | nil => rfl
  | cons c rest ih =>
    have hih := @ih (nesting.after brackets c) (hn.after c)
    obtain ⟨piece, pieces, hp, hpre⟩ :=
      Nesting.exists_first_split brackets separator (nesting.after brackets c) rest
    cases hc : nesting.separates brackets separator c with
    | true =>
      have hne : c = ' ' → rest.head? ≠ some ' ' := by
        rintro rfl
        rw [Nesting.separates_plain nesting hs] at hc
        cases hc
      rw [squeezeSpaces_cons hne, Nesting.split_cons_of_separates hc,
        Nesting.split_cons_of_separates hc, hih]
      rfl
    | false =>
      rw [hp, List.map_cons] at hih
      rw [Nesting.split_cons_of_not_separates hc hp, List.map_cons]
      by_cases hd : c = ' ' ∧ rest.head? = some ' '
      · obtain ⟨rfl, hr⟩ := hd
        obtain ⟨more, rfl⟩ := List.head?_eq_some_iff.mp hr
        have ha : nesting.after brackets ' ' = nesting := Nesting.after_plain hn hs
        -- The second space does not separate either, so the first piece begins with it.
        obtain ⟨first, rfl⟩ : ∃ first, piece = ' ' :: first := by
          obtain ⟨first, back, hf⟩ := List.exists_cons_of_ne_nil
            (Nesting.split_ne_nil brackets separator
              ((nesting.after brackets ' ').after brackets ' ') more)
          rw [Nesting.split_cons_of_not_separates (Nesting.separates_plain _ hs) hf] at hp
          exact ⟨first, (List.cons.inj hp).1.symm⟩
        rw [squeezeSpaces_double, squeezeSpaces_double, ← hih, ha]
      · have hpd : c = ' ' → piece.head? ≠ some ' ' := by
          intro he hh
          obtain ⟨first, rfl⟩ := List.head?_eq_some_iff.mp hh
          obtain ⟨tail, rfl⟩ := hpre
          exact hd ⟨he, rfl⟩
        rw [squeezeSpaces_cons fun he hr => hd ⟨he, hr⟩, squeezeSpaces_cons hpd,
          Nesting.split_cons_of_not_separates hc hih]

theorem nameParts_eq (text : Text) : nameParts text = (Text.splitTop ',' text).map namePart := by
  rw [nameParts, Text.splitTop, split_squeezeSpaces (by decide) Nesting.isProper_top, List.map_map]
  rfl

end Retheme.Sheet
