import Retheme.Proofs.Sheet.Declaration
import Retheme.Proofs.Text.Ends

/-!
# The flag of a declaration

Behind the colon of a marked declaration its flag is looked for in the first
text that stands behind some colon and ends on its line. That is the declared
text when it has a character and no line feed. Otherwise the search goes on, to
the declarations behind it too.
-/

namespace Retheme.Sheet

variable {source text front rest value : Text} {terminator : Char}

-- ---------------------------------------------------------------------------
-- Values on one line
-- ---------------------------------------------------------------------------

/-- A value stands at the start of a text: it has a character, which may be any but a line feed, and
is ended on its line by a semicolon or a closing brace. -/
structure StartsWithValue (text value : Text) : Prop where
  ne_nil : value ≠ []
  line : '\n' ∉ value
  tail : ∀ c ∈ value.tail, c ≠ ';' ∧ c ≠ '}'
  ended : ∃ terminator rest, text = value ++ terminator :: rest ∧
    (terminator = ';' ∨ terminator = '}')

theorem lineValue?_eq_some_iff : lineValue? text = some value ↔ StartsWithValue text value := by
  constructor
  · intro h
    cases text with
    | nil => simp [lineValue?] at h
    | cons c rest =>
      simp only [lineValue?] at h
      split at h
      · cases h
      next hc =>
      generalize hw : rest.takeWhile (fun d => !(d == ';' || d == '}') && d != '\n') = chars at h
      have hchars : ∀ d ∈ chars, d ≠ ';' ∧ d ≠ '}' ∧ d ≠ '\n' := by
        intro d hd
        rw [← hw] at hd
        simpa [and_assoc] using List.mem_takeWhile_imp hd
      obtain ⟨tail, rfl⟩ : chars <+: rest := hw ▸ List.takeWhile_prefix _
      rw [List.drop_left] at h
      cases tail with
      | nil => cases h
      | cons d tail =>
        dsimp only at h
        split at h
        · next hd =>
          cases h
          refine ⟨by simp, ?_, fun e he => ?_, d, tail, by simp, by simpa using hd⟩
          · simp only [List.mem_cons, not_or]
            exact ⟨Ne.symm hc, fun hm => (hchars _ hm).2.2 rfl⟩
          · exact ⟨(hchars e he).1, (hchars e he).2.1⟩
        · cases h
  · rintro ⟨hne, hl, ht, terminator, rest, rfl, he⟩
    obtain ⟨c, chars, rfl⟩ := List.exists_cons_of_ne_nil hne
    simp only [List.mem_cons, not_or] at hl
    refine lineValue?_of_chars (Ne.symm hl.1) (fun d hd => ?_) he rest
    exact ⟨(ht d hd).1, (ht d hd).2, fun hn => hl.2 (hn ▸ hd)⟩

theorem lineValue?_eq_none_iff :
    lineValue? text = none ↔ ∀ value, ¬ StartsWithValue text value := by
  simp only [← lineValue?_eq_some_iff, Option.eq_none_iff_forall_ne_some, ne_eq]

inductive Takes : Text → Text → Prop
  | here {rest value : Text} : StartsWithValue rest value → Takes (':' :: rest) value
  | behind {rest value : Text} :
    (∀ other, ¬ StartsWithValue rest other) → Takes rest value → Takes (':' :: rest) value
  | later {c : Char} {rest value : Text} : c ≠ ':' → Takes rest value → Takes (c :: rest) value

theorem firstLineValue?_eq_some_iff : firstLineValue? text = some value ↔ Takes text value := by
  induction text with
  | nil => exact ⟨nofun, nofun⟩
  | cons c rest ih =>
    rw [firstLineValue?]
    split
    · next hc =>
      subst hc
      rw [Option.or_eq_some_iff, lineValue?_eq_some_iff, lineValue?_eq_none_iff, ih]
      constructor
      · rintro (h | ⟨hn, h⟩)
        · exact .here h
        · exact .behind hn h
      · rintro (h | ⟨hn, h⟩ | ⟨hc, -⟩)
        · exact .inl h
        · exact .inr ⟨hn, h⟩
        · exact absurd rfl hc
    · next hc =>
      rw [ih]
      constructor
      · exact .later hc
      · rintro (h | ⟨-, h⟩ | ⟨-, h⟩)
        · exact absurd rfl hc
        · exact h
        · exact h

theorem not_startsWithValue_line (h : ∀ c ∈ front, c ≠ ';' ∧ c ≠ '}') (rest value : Text) :
    ¬ StartsWithValue (front ++ '\n' :: rest) value := by
  rintro ⟨-, hl, -, terminator, tail, he, ht⟩
  have hn : '\n' ≠ terminator := by
    rintro rfl
    simp at ht
  -- The line feed would stand in the value, or the terminator in front of it.
  rcases List.append_eq_append_iff.mp he with ⟨middle, rfl, hm⟩ | ⟨middle, rfl, hm⟩
  · cases middle with
    | nil => exact hn (List.cons.inj hm).1
    | cons c middle =>
      obtain rfl : '\n' = c := (List.cons.inj hm).1
      exact hl (by simp)
  · cases middle with
    | nil => exact hn (List.cons.inj hm).1.symm
    | cons c middle =>
      obtain rfl : terminator = c := (List.cons.inj hm).1
      have hc := h terminator (by simp)
      simp [hc.1, hc.2] at ht

theorem firstLineValue?_line (h : ∀ c ∈ front, c ≠ ';' ∧ c ≠ '}') (rest : Text) :
    firstLineValue? (front ++ '\n' :: rest) = firstLineValue? rest := by
  induction front with
  | nil => rw [List.nil_append, firstLineValue?, if_neg (by decide)]
  | cons c front ih =>
    have hf : ∀ c ∈ front, c ≠ ';' ∧ c ≠ '}' := fun d hd => h d (List.mem_cons_of_mem _ hd)
    have hn : lineValue? (front ++ '\n' :: rest) = none :=
      lineValue?_eq_none_iff.mpr (not_startsWithValue_line hf rest)
    rw [List.cons_append, firstLineValue?, ih hf, hn, Option.none_or, ite_self]

-- ---------------------------------------------------------------------------
-- Declarations
-- ---------------------------------------------------------------------------

/-- A marked declaration within reach: the declared text goes from the colon to the first semicolon
or closing brace. -/
structure MarkedDeclaration (source : Text) extends MarkedProperty source where
  declared : Text
  terminator : Char
  rest : Text
  after_eq : after = declared ++ terminator :: rest
  declared_chars : ∀ c ∈ declared, c ≠ ';' ∧ c ≠ '}'
  terminator_ends : terminator = ';' ∨ terminator = '}'
  within : declared.length + 2 ≤ importantReach

namespace MarkedDeclaration

variable (declaration : MarkedDeclaration source)

/-- Where the search goes on when it does not take the declared text: at the colon when nothing is
declared, and otherwise in the last line of the declared text. -/
def goesOn : Text :=
  let rest := declaration.rest.take (importantReach - (declaration.declared.length + 2))
  if declaration.declared = [] then ':' :: declaration.terminator :: rest
  else Text.lastPiece '\n' declaration.declared ++ declaration.terminator :: rest

theorem take_after : (':' :: declaration.after).take importantReach =
    ':' :: (declaration.declared ++ declaration.terminator ::
      declaration.rest.take (importantReach - (declaration.declared.length + 2))) := by
  obtain ⟨more, hm⟩ := Nat.exists_eq_add_of_le declaration.within
  have hr : importantReach = (declaration.declared.length + (more + 1)) + 1 := by omega
  rw [hm, Nat.add_sub_cancel_left, ← hm, hr, declaration.after_eq, List.take_succ_cons,
    List.take_length_add_append, List.take_succ_cons]

theorem important_iff : (contextAt source declaration.marker.start).important = true ↔
    ∃ value, Takes ((':' :: declaration.after).take importantReach) value ∧
      importantFlag.occursIn value = true := by
  simp only [declaration.contextAt_eq, Option.any_eq_true, firstLineValue?_eq_some_iff]

theorem firstLineValue?_declared (hne : declaration.declared ≠ []) (hl : '\n' ∉ declaration.declared) :
    firstLineValue? ((':' :: declaration.after).take importantReach) = some declaration.declared := by
  rw [declaration.take_after, firstLineValue?_eq_some_iff]
  refine .here ⟨hne, hl, fun c hc => ?_, _, _, rfl, declaration.terminator_ends⟩
  exact declaration.declared_chars c (List.mem_of_mem_tail hc)

theorem firstLineValue?_goesOn (h : declaration.declared = [] ∨ '\n' ∈ declaration.declared) :
    firstLineValue? ((':' :: declaration.after).take importantReach) =
      firstLineValue? declaration.goesOn := by
  rw [declaration.take_after, goesOn]
  rcases h with h | h
  · simp [h]
  · obtain ⟨front, last, hd, hl⟩ := Text.exists_last h
    have hne : declaration.declared ≠ [] := List.ne_nil_of_mem h
    have hfront : ∀ c ∈ ':' :: front, c ≠ ';' ∧ c ≠ '}' := by
      intro c hc
      rcases List.mem_cons.mp hc with rfl | hc
      · decide
      · exact declaration.declared_chars c (by simp [hd, hc])
    have hline := firstLineValue?_line hfront
    rw [if_neg hne, hd, Text.lastPiece_append_cons front hl]
    simpa using hline _

/-- The flag is read from the declared text when it has a character and no line feed. Otherwise it
is right exactly when the text taken instead agrees. -/
theorem important_eq_iff :
    (contextAt source declaration.marker.start).important =
        importantFlag.occursIn declaration.declared ↔
      (declaration.declared ≠ [] ∧ '\n' ∉ declaration.declared) ∨
        (importantFlag.occursIn declaration.declared = true ↔
          ∃ value, Takes declaration.goesOn value ∧ importantFlag.occursIn value = true) := by
  by_cases h : declaration.declared ≠ [] ∧ '\n' ∉ declaration.declared
  · have ht := declaration.firstLineValue?_declared h.1 h.2
    simp [declaration.contextAt_eq, ht, h.1, h.2]
  · have hn : declaration.declared = [] ∨ '\n' ∈ declaration.declared := by
      by_contra hn
      rw [not_or] at hn
      exact h hn
    have ht (value : Text) : Takes ((':' :: declaration.after).take importantReach) value ↔
        Takes declaration.goesOn value := by
      rw [← firstLineValue?_eq_some_iff, declaration.firstLineValue?_goesOn hn,
        firstLineValue?_eq_some_iff]
    rw [or_iff_right h, Bool.eq_iff_iff, declaration.important_iff]
    simp only [ht]
    exact iff_comm

end MarkedDeclaration

def brokenSheet : Text := ".a \x7b /*![demo.x]*/ b: c\n !important; \x7d"

def brokenDeclaration : MarkedDeclaration brokenSheet where
  marker := ⟨"demo.x", 5, 18⟩
  prop := " b"
  after := " c\n !important; \x7d"
  declared := " c\n !important"
  terminator := ';'
  rest := " \x7d"
  found := by decide +kernel
  behind := by decide
  not_mem_prop := by decide
  prop_chars := by decide
  prop_visible := by decide
  after_eq := by decide
  declared_chars := by decide
  terminator_ends := by decide
  within := by decide

/-- A flag on a later line than the colon is not seen. -/
theorem not_important_declared : ¬ ∀ (source : Text) (declaration : MarkedDeclaration source),
    (contextAt source declaration.marker.start).important =
      importantFlag.occursIn declaration.declared := by
  intro h
  exact absurd (h brokenSheet brokenDeclaration) (by decide +kernel)

/-- Where nothing is declared, the flag of the next declaration is taken. -/
example : contextAt ".a \x7b /*![demo.x]*/ b:; c: d !important; \x7d" 5 = ⟨"b", ".a", true⟩ := by
  decide +kernel

end Retheme.Sheet
