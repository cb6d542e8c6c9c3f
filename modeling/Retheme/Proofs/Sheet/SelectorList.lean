import Retheme.Proofs.Scope.ThemeClass
import Retheme.Proofs.Sheet.CanonicalName

/-!
# Selector lists

Selectors that hold neither brackets nor quotes nor commas, and single spaces
alone. Written with commas and spaces between them in front of a brace, their
canonical name is the selectors with commas, and scoping puts the class of the
theme in front of each.
-/

namespace Retheme.Sheet

structure IsPlainSelector (selector : Text) : Prop where
  head : ∃ c, selector.head? = some c ∧ Text.isBlank c = false
  last : ∃ c, selector.getLast? = some c ∧ Text.isBlank c = false
  spaced : Text.isSpaced selector
  plain : ∀ c ∈ selector, Nesting.isPlain .roundSquare (some ',') c = true
  chars : ∀ c ∈ selector, c ≠ '{' ∧ c ≠ '}' ∧ c ≠ ';' ∧ c ≠ '/' ∧ c ≠ '*' ∧ c ≠ '@'

variable {selector gap : Text} {selectors : List Text}

namespace IsPlainSelector

theorem trim_eq {p : Char → Bool} (h : IsPlainSelector selector)
    (hp : ∀ c, Text.isBlank c = false → p c = false) : Text.trim p selector = selector := by
  obtain ⟨first, hf, hfb⟩ := h.head
  obtain ⟨last, hl, hlb⟩ := h.last
  apply Text.trim_eq_self
  · intro c hc
    rw [hf] at hc
    cases hc
    exact hp _ hfb
  · intro c hc
    rw [hl] at hc
    cases hc
    exact hp _ hlb

theorem not_isSelectorBlank {c : Char} (h : Text.isBlank c = false) : isSelectorBlank c = false := by
  rw [Bool.eq_false_iff]
  intro hc
  simp [isBlank_of_isSelectorBlank hc] at h

end IsPlainSelector

-- ---------------------------------------------------------------------------
-- Splitting selector lists
-- ---------------------------------------------------------------------------

theorem splitTop_plain (h : ∀ c ∈ selector, Nesting.isPlain .roundSquare (some ',') c = true) :
    Text.splitTop ',' selector = [selector] :=
  Nesting.split_eq_singleton (Nesting.passes?_plain h)

theorem splitTop_plain_comma
    (h : ∀ c ∈ selector, Nesting.isPlain .roundSquare (some ',') c = true) (rest : Text) :
    Text.splitTop ',' (selector ++ ',' :: rest) = selector :: Text.splitTop ',' rest :=
  Nesting.split_append_separator (Nesting.passes?_plain h) (by decide) rest

theorem splitTop_join (hn : selectors ≠ [])
    (h : ∀ selector ∈ selectors, IsPlainSelector selector) :
    Text.splitTop ',' (Text.join [','] selectors) = selectors := by
  induction selectors with
  | nil => exact absurd rfl hn
  | cons first rest ih =>
    have hf := (h first (by simp)).plain
    cases rest with
    | nil => exact splitTop_plain hf
    | cons second more =>
      rw [Text.join_cons _ _ (by simp), List.append_assoc, List.singleton_append,
        splitTop_plain_comma hf, ih (by simp) fun s hs => h s (List.mem_cons_of_mem _ hs)]

def header (selectors : List Text) : Text := Text.join ", " selectors ++ [' ']

theorem header_singleton (selector : Text) : header [selector] = selector ++ [' '] := rfl

theorem header_cons (selector : Text) (hn : selectors ≠ []) :
    header (selector :: selectors) = selector ++ ',' :: ' ' :: header selectors := by
  rw [header, Text.join_cons _ _ hn, header]
  simp

theorem map_trim_splitTop_header (hn : selectors ≠ [])
    (h : ∀ selector ∈ selectors, IsPlainSelector selector) :
    (Text.splitTop ',' (header selectors)).map (Text.trim isSelectorBlank) = selectors := by
  induction selectors with
  | nil => exact absurd rfl hn
  | cons first rest ih =>
    have hf := h first (by simp)
    have ht := hf.trim_eq fun c => IsPlainSelector.not_isSelectorBlank
    cases rest with
    | nil =>
      have hs : ∀ c ∈ first ++ [' '], Nesting.isPlain .roundSquare (some ',') c = true := by
        intro c hc
        rcases List.mem_append.mp hc with hc | hc
        · exact hf.plain c hc
        · rw [List.mem_singleton.mp hc]
          rfl
      rw [header_singleton, splitTop_plain hs, List.map_singleton,
        Text.trim_append_right first (by decide), ht]
    | cons second more =>
      rw [header_cons first (by simp), splitTop_plain_comma hf.plain, List.map_cons, ht,
        map_trim_splitTop_cons (by decide),
        ih (by simp) fun s hs => h s (List.mem_cons_of_mem _ hs)]

-- ---------------------------------------------------------------------------
-- Spaces in selector lists
-- ---------------------------------------------------------------------------

theorem occursIn_cons_spaces {c : Char} {text : Text} (hc : c = ' ' → text.head? ≠ some ' ')
    (h : Text.occursIn [' ', ' '] text = false) : Text.occursIn [' ', ' '] (c :: text) = false := by
  rw [Text.occursIn_cons, h, Bool.or_false, Bool.eq_false_iff]
  intro hp
  obtain ⟨rest, hr⟩ := List.isPrefixOf_iff_prefix.mp hp
  obtain ⟨rfl, rfl⟩ := List.cons.inj hr
  exact hc rfl rfl

theorem occursIn_of_isSpaced {text : Text} (h : Text.isSpaced text) :
    Text.occursIn [' ', ' '] text = false := by
  induction text with
  | nil => rfl
  | cons c rest ih =>
    rw [Text.isSpaced, Bool.and_eq_true] at h
    refine occursIn_cons_spaces ?_ (ih h.2)
    rintro rfl hr
    have hb : Text.isBlank ' ' = true := by decide
    simp [hr, hb] at h

theorem IsPlainSelector.getLast?_ne (h : IsPlainSelector selector) :
    selector.getLast? ≠ some ' ' := by
  obtain ⟨c, hc, hb⟩ := h.last
  intro he
  rw [hc] at he
  cases he
  cases hb

theorem head?_header (hn : selectors ≠ [])
    (h : ∀ selector ∈ selectors, IsPlainSelector selector) :
    ∃ c, (header selectors).head? = some c ∧ Text.isBlank c = false := by
  cases selectors with
  | nil => exact absurd rfl hn
  | cons first rest =>
    obtain ⟨c, hc, hb⟩ := (h first (by simp)).head
    refine ⟨c, ?_, hb⟩
    rw [header, List.head?_append, Text.head?_join _ hc, Option.some_or]

theorem occursIn_header (hn : selectors ≠ [])
    (h : ∀ selector ∈ selectors, IsPlainSelector selector) :
    Text.occursIn [' ', ' '] (header selectors) = false := by
  induction selectors with
  | nil => exact absurd rfl hn
  | cons first rest ih =>
    have hf := h first (by simp)
    have hs := occursIn_of_isSpaced hf.spaced
    cases rest with
    | nil =>
      rw [header_singleton]
      exact Text.occursIn_pair_append hs (by decide) fun hl => absurd hl hf.getLast?_ne
    | cons second more =>
      have hr : ∀ selector ∈ second :: more, IsPlainSelector selector :=
        fun s hs => h s (List.mem_cons_of_mem _ hs)
      obtain ⟨c, hc, hb⟩ := head?_header (List.cons_ne_nil second more) hr
      have hsp : (header (second :: more)).head? ≠ some ' ' := by
        intro he
        rw [hc] at he
        cases he
        cases hb
      rw [header_cons first (by simp)]
      refine Text.occursIn_pair_append hs ?_ (by simp)
      exact occursIn_cons_spaces (by simp) (occursIn_cons_spaces (fun _ => hsp) (ih (by simp) hr))

theorem isSpaced_join (h : ∀ selector ∈ selectors, IsPlainSelector selector) :
    Text.isSpaced (Text.join [','] selectors) := by
  induction selectors with
  | nil => rfl
  | cons first rest ih =>
    have hf := (h first (by simp)).spaced
    cases rest with
    | nil => exact hf
    | cons second more =>
      rw [Text.join_cons _ _ (by simp), List.append_assoc, List.singleton_append]
      refine Text.isSpaced_append hf (Text.isSpaced_cons (by decide) (ih ?_))
      exact fun s hs => h s (List.mem_cons_of_mem _ hs)

-- ---------------------------------------------------------------------------
-- Names of selector lists
-- ---------------------------------------------------------------------------

theorem mem_header {c : Char} (hc : c ∈ header selectors) :
    c = ' ' ∨ c = ',' ∨ ∃ selector ∈ selectors, c ∈ selector := by
  rcases List.mem_append.mp hc with hc | hc
  · rcases Text.mem_join hc with hc | hc
    · have hg : c = ',' ∨ c = ' ' := by simpa using hc
      rcases hg with hg | hg
      · exact .inr (.inl hg)
      · exact .inl hg
    · exact .inr (.inr hc)
  · exact .inl (List.mem_singleton.mp hc)

theorem header_chars (h : ∀ selector ∈ selectors, IsPlainSelector selector) :
    ∀ c ∈ header selectors, c ≠ '{' ∧ c ≠ '}' ∧ c ≠ ';' ∧ c ≠ '/' ∧ c ≠ '*' ∧ c ≠ '@' := by
  intro c hc
  rcases mem_header hc with rfl | rfl | ⟨selector, hs, hc⟩
  · decide
  · decide
  · exact (h selector hs).chars c hc

theorem canonicalName_header (hg : ∀ c ∈ gap, isSelectorBlank c = true) (hn : selectors ≠ [])
    (h : ∀ selector ∈ selectors, IsPlainSelector selector) :
    canonicalName (gap ++ header selectors) = Text.join [','] selectors := by
  have hs : '/' ∉ header selectors := fun hm => (header_chars h _ hm).2.2.2.1 rfl
  have hgs : '/' ∉ gap := fun hm => absurd (hg _ hm) (by decide)
  have hc : Text.occursIn commentOpen (header selectors) = false := Text.occursIn_of_not_mem hs
  have hgc : Text.occursIn commentOpen (gap ++ header selectors) = false :=
    Text.occursIn_of_not_mem (by simp [hs, hgs])
  rw [← canonicalName_dropWhile hgc, List.dropWhile_append_of_pos hg, canonicalName_dropWhile hc,
    canonicalName_of_commentless hc, nameParts, squeezeSpaces_eq_self (occursIn_header hn h),
    map_trim_splitTop_header hn h]

/-- Scoping puts the class of the theme in front of each selector. -/
theorem standard_join (hn : selectors ≠ []) (h : ∀ selector ∈ selectors, IsPlainSelector selector)
    (theme : Text) :
    Scope.standard (Text.join [','] selectors) theme =
      Text.join ", " (selectors.map fun selector => '.' :: theme ++ ' ' :: selector) := by
  have hhead : ∃ c, (Text.join [','] selectors).head? = some c ∧ Text.isBlank c = false ∧ c ≠ '@' := by
    cases selectors with
    | nil => exact absurd rfl hn
    | cons first rest =>
      have hf := h first (by simp)
      obtain ⟨c, hc, hb⟩ := hf.head
      exact ⟨c, Text.head?_join _ hc, hb, (hf.chars c (List.mem_of_head? hc)).2.2.2.2.2⟩
  obtain ⟨c, hc, hb, ha⟩ := hhead
  have hp : (Text.join [','] selectors).head? ≠ some '@' := by
    simpa [hc] using ha
  have hq : Text.squeezeBlanks (Text.join [','] selectors) = Text.join [','] selectors := by
    refine Text.squeezeBlanks_eq_self (isSpaced_join h) fun d hd => ?_
    rw [hc] at hd
    cases hd
    exact hb
  rw [Scope.standard_eq_prefixed hp, Scope.prefixed, hq, splitTop_join hn h]
  congr 1
  refine List.map_congr_left fun selector hs => ?_
  have ht : Text.strip selector = selector := (h selector hs).trim_eq fun c hc => hc
  rw [ht, Scope.className]
  simp

end Retheme.Sheet
