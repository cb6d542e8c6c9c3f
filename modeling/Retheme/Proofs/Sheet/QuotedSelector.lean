import Retheme.Proofs.Sheet.Braces
import Retheme.Proofs.Sheet.Property
import Retheme.Proofs.Sheet.SelectorList
import Retheme.Proofs.Text.Members
import Retheme.Proofs.Text.QuotedStrings
import Retheme.Proofs.Text.Words

/-!
# Quoted strings in selectors

A selector list is cut outside of its quoted strings only, but its spaces are
squeezed everywhere. A canonical name keeps the strings of its list exactly when
none of them has two spaces in a row, and a scoped name exactly when every blank
in them is a single space.
-/

namespace Retheme.Sheet

open Text (quotedStrings IsQuoted OccurInOrder)
open Nesting (isQuote)

variable {s text rest rule theme : Text} {c quote : Char}

theorem isBlank_of_isQuote (h : isQuote c = true) : Text.isBlank c = false := by
  simp only [isQuote, Bool.or_eq_true, decide_eq_true_eq] at h
  rcases h with rfl | rfl <;> decide

theorem isQuote_of_isBlank (h : Text.isBlank c = true) : isQuote c = false := by
  rw [Bool.eq_false_iff]
  intro hq
  rw [isBlank_of_isQuote hq] at h
  cases h

theorem isQuote_of_isSelectorBlank (h : isSelectorBlank c = true) : isQuote c = false :=
  isQuote_of_isBlank (isBlank_of_isSelectorBlank h)

theorem ne_space_of_isQuote (h : isQuote c = true) : c ≠ ' ' := by
  rintro rfl
  cases h

-- ---------------------------------------------------------------------------
-- Strings of texts that are squeezed
-- ---------------------------------------------------------------------------

theorem isQuoted_squeezeSpaces (h : IsQuoted s) : IsQuoted (squeezeSpaces s) := by
  obtain ⟨quote, body, hq, hb, rfl⟩ := h
  have hs := ne_space_of_isQuote hq
  have hsingle : squeezeSpaces [quote] = [quote] := squeezeSpaces_cons (by simp)
  refine ⟨quote, squeezeSpaces body, hq, fun hm => hb (mem_of_mem_squeezeSpaces hm), ?_⟩
  rw [List.cons_append, squeezeSpaces_cons fun he => absurd he hs,
    squeezeSpaces_append fun _ => by simpa using hs, hsingle, List.cons_append]

theorem quotedStrings_squeezeSpaces (text : Text) :
    quotedStrings (squeezeSpaces text) = (quotedStrings text).map squeezeSpaces := by
  induction text using Text.quotedStrings_induction with
  | nil =>
    rw [squeezeSpaces, Text.quotedStrings_nil]
    rfl
  | plain c rest hc ih =>
    rw [Text.quotedStrings_cons hc, ← ih]
    by_cases hd : c = ' ' ∧ rest.head? = some ' '
    · obtain ⟨rfl, hr⟩ := hd
      obtain ⟨more, rfl⟩ := List.head?_eq_some_iff.mp hr
      rw [squeezeSpaces_double]
    · rw [squeezeSpaces_cons fun he hr => hd ⟨he, hr⟩, Text.quotedStrings_cons hc]
  | string s rest hs ih =>
    have hl : s.getLast? = some ' ' → rest.head? ≠ some ' ' := by
      obtain ⟨quote, hq, -, hl⟩ := hs.ends
      intro hsp
      rw [hl] at hsp
      exact absurd (Option.some.inj hsp) (ne_space_of_isQuote hq)
    rw [squeezeSpaces_append hl, Text.quotedStrings_append_quoted (isQuoted_squeezeSpaces hs),
      Text.quotedStrings_append_quoted hs, ih, List.map_cons]
  | unclosed quote rest hq hr =>
    have hn : quote ∉ squeezeSpaces rest := fun hm => hr (mem_of_mem_squeezeSpaces hm)
    rw [squeezeSpaces_cons fun he => absurd he (ne_space_of_isQuote hq),
      Text.quotedStrings_unclosed hq hn, Text.quotedStrings_unclosed hq hr, List.map_nil]

theorem exists_squeezeBlanks_snoc (hc : Text.isBlank c = false) (text : Text) :
    ∃ front, Text.squeezeBlanks (text ++ [c]) = front ++ [c] ∧ ∀ d ∈ front, d = ' ' ∨ d ∈ text := by
  induction text with
  | nil => exact ⟨[], Text.squeezeBlanks_cons hc [], by simp⟩
  | cons d rest ih =>
    obtain ⟨front, hs, hf⟩ := ih
    cases hd : Text.isBlank d with
    | true =>
      refine ⟨front, by rw [List.cons_append, Text.squeezeBlanks_of_isBlank hd, hs], fun e he => ?_⟩
      exact (hf e he).imp_right (List.mem_cons_of_mem _)
    | false =>
      refine ⟨d :: (Text.blankGap (rest ++ [c]) ++ front), ?_, ?_⟩
      · rw [List.cons_append, Text.squeezeBlanks_cons hd, hs]
        simp
      · simp only [List.mem_cons, List.mem_append]
        rintro e (rfl | he | he)
        · exact .inr (.inl rfl)
        · exact .inl (Text.mem_blankGap he)
        · exact (hf e he).imp_right .inr

theorem isQuoted_squeezeBlanks (h : IsQuoted s) : IsQuoted s.squeezeBlanks := by
  obtain ⟨quote, body, hq, hb, rfl⟩ := h
  have hn := isBlank_of_isQuote hq
  obtain ⟨front, hs, hf⟩ := exists_squeezeBlanks_snoc hn body
  refine ⟨quote, Text.blankGap (body ++ [quote]) ++ front, hq, fun hm => ?_, ?_⟩
  · rcases List.mem_append.mp hm with hm | hm
    · exact ne_space_of_isQuote hq (Text.mem_blankGap hm)
    · exact (hf quote hm).elim (ne_space_of_isQuote hq) hb
  · rw [List.cons_append, Text.squeezeBlanks_cons hn, hs]
    simp

theorem quotedStrings_squeezeBlanks (text : Text) :
    quotedStrings text.squeezeBlanks = (quotedStrings text).map Text.squeezeBlanks := by
  have hgap (text : Text) : ∀ c ∈ Text.blankGap text, isQuote c = false := by
    intro c hc
    rw [Text.mem_blankGap hc]
    rfl
  induction text using Text.quotedStrings_induction with
  | nil =>
    rw [Text.quotedStrings_nil]
    exact Text.quotedStrings_nil
  | plain c rest hc ih =>
    rw [Text.quotedStrings_cons hc, ← ih]
    cases hb : Text.isBlank c with
    | true => rw [Text.squeezeBlanks_of_isBlank hb]
    | false =>
      rw [Text.squeezeBlanks_cons hb, Text.quotedStrings_cons hc,
        Text.quotedStrings_append_left (hgap rest)]
  | string s rest hs ih =>
    have hl : ∃ c, s.getLast? = some c ∧ Text.isBlank c = false := by
      obtain ⟨quote, hq, -, hl⟩ := hs.ends
      exact ⟨quote, hl, isBlank_of_isQuote hq⟩
    rw [Text.squeezeBlanks_append hl, Text.quotedStrings_append_quoted (isQuoted_squeezeBlanks hs),
      Text.quotedStrings_append_quoted hs, Text.quotedStrings_append_left (hgap rest), ih,
      List.map_cons]
  | unclosed quote rest hq hr =>
    have hn : quote ∉ Text.blankGap rest ++ Text.squeezeBlanks rest := by
      intro hm
      rcases List.mem_append.mp hm with hm | hm
      · exact ne_space_of_isQuote hq (Text.mem_blankGap hm)
      · exact (Text.mem_squeezeBlanks hm).elim (ne_space_of_isQuote hq) hr
    rw [Text.squeezeBlanks_cons (isBlank_of_isQuote hq), Text.quotedStrings_unclosed hq hn,
      Text.quotedStrings_unclosed hq hr, List.map_nil]

-- ---------------------------------------------------------------------------
-- Strings of canonical names
-- ---------------------------------------------------------------------------

/-- The strings of a canonical name are those of the list, with their spaces squeezed. -/
theorem quotedStrings_canonicalName (raw : Text) :
    quotedStrings (canonicalName raw) = (quotedStrings (eraseComments raw)).map squeezeSpaces := by
  rw [canonicalName, Text.splitTop,
    Text.quotedStrings_join (Nesting.cuts_split .roundSquare ',' .top _)
      (Text.quotedStrings_trim fun _ => isQuote_of_isSelectorBlank)
      fun _ => Text.closesQuotes_trim fun _ => isQuote_of_isSelectorBlank,
    ← Text.splitTop, Text.flatMap_quotedStrings_splitTop, quotedStrings_squeezeSpaces]

theorem occursIn_squeezeSpaces (text : Text) :
    Text.occursIn [' ', ' '] (squeezeSpaces text) = false := by
  fun_induction squeezeSpaces text with
  | case1 rest ih => exact ih
  | case2 c rest hn ih =>
    refine occursIn_cons_spaces (fun hc hs => ?_) ih
    rw [head?_squeezeSpaces] at hs
    obtain ⟨more, hm⟩ := List.head?_eq_some_iff.mp hs
    exact hn more hc hm
  | case3 => rfl

theorem occursIn_spaces_join {pieces : List Text}
    (h : ∀ piece ∈ pieces, Text.occursIn [' ', ' '] piece = false) :
    Text.occursIn [' ', ' '] (Text.join [','] pieces) = false := by
  induction pieces with
  | nil => rfl
  | cons piece more ih =>
    have hp := h piece List.mem_cons_self
    have hm := ih fun other ho => h other (List.mem_cons_of_mem _ ho)
    cases more with
    | nil => exact hp
    | cons next more =>
      rw [Text.join_cons _ _ (by simp), List.append_assoc, List.singleton_append]
      exact Text.occursIn_pair_append hp (occursIn_cons_spaces (by simp) hm) (by simp)

theorem occursIn_canonicalName (raw : Text) :
    Text.occursIn [' ', ' '] (canonicalName raw) = false := by
  refine occursIn_spaces_join fun piece hp => ?_
  obtain ⟨original, ho, rfl⟩ := List.mem_map.mp hp
  have hi : Text.trim isSelectorBlank original <:+: squeezeSpaces (eraseComments raw) :=
    (Text.trim_infix _ original).trans (Nesting.infix_of_mem_split ho)
  rw [Text.occursIn_eq_false_iff]
  exact fun hs => (Text.occursIn_eq_false_iff _ _).mp (occursIn_squeezeSpaces _) (hs.trans hi)

-- ---------------------------------------------------------------------------
-- Strings of scoped names
-- ---------------------------------------------------------------------------

/-- The squeezed strings of a rule occur in its scoped name, whatever the theme is called. -/
theorem occurInOrder_prefixed (rule theme : Text) :
    OccurInOrder ((quotedStrings rule).map Text.squeezeBlanks) (Scope.prefixed rule theme) := by
  rw [← quotedStrings_squeezeBlanks, ← Text.flatMap_quotedStrings_splitTop, Scope.prefixed]
  refine Text.occurInOrder_join _ fun selector _ => ?_
  rw [← Text.quotedStrings_trim (fun _ => isQuote_of_isBlank) selector]
  exact (Text.occurInOrder_quotedStrings _).append_left _

theorem isSpaced_selector (hs : Text.isSpaced (Text.strip s)) (hc : Text.isBlank c = false)
    (hr : Text.isSpaced (c :: rest)) :
    Text.isSpaced ('.' :: ' ' :: (Text.strip s ++ c :: rest)) := by
  have ha := Text.isSpaced_append hs hr
  refine Text.isSpaced_cons (by decide) ?_
  cases hd : Text.strip s with
  | nil => exact Text.isSpaced_space hc hr
  | cons d more =>
    have hh : (Text.trim Text.isBlank s).head? = some d := congrArg List.head? hd
    rw [hd] at ha
    exact Text.isSpaced_space (Text.head?_trim hh) ha

theorem isSpaced_join_scoped {selectors : List Text} (hn : selectors ≠ [])
    (h : ∀ selector ∈ selectors, Text.isSpaced selector.strip) :
    ∃ rest, Text.join ", " (selectors.map fun selector =>
        Scope.className [] ++ [' '] ++ Text.strip selector) ++ ['.'] = '.' :: rest ∧
      Text.isSpaced ('.' :: rest) := by
  induction selectors with
  | nil => exact absurd rfl hn
  | cons selector more ih =>
    have hs := h selector List.mem_cons_self
    cases more with
    | nil =>
      have hd : Text.isSpaced ['.'] := by decide
      exact ⟨' ' :: (Text.strip selector ++ ['.']), rfl, isSpaced_selector hs (by decide) hd⟩
    | cons next more =>
      obtain ⟨rest, he, hr⟩ := ih (by simp) fun other ho => h other (List.mem_cons_of_mem _ ho)
      have hc : Text.isSpaced (',' :: ' ' :: '.' :: rest) :=
        Text.isSpaced_cons (by decide) (Text.isSpaced_space (by decide) hr)
      refine ⟨' ' :: (Text.strip selector ++ ',' :: ' ' :: '.' :: rest), ?_,
        isSpaced_selector hs (by decide) hc⟩
      rw [List.map_cons, Text.join_cons _ _ (by simp), List.append_assoc, he]
      simp [Scope.className]

theorem isSpaced_prefixed (rule : Text) : Text.isSpaced (Scope.prefixed rule [] ++ ['.']) := by
  have hs : ∀ selector ∈ rule.squeezeBlanks.splitTop ',', Text.isSpaced selector.strip :=
    fun selector hm => Text.isSpaced_strip_of_infix (Nesting.infix_of_mem_split hm)
  obtain ⟨rest, he, hr⟩ := isSpaced_join_scoped (Nesting.split_ne_nil _ _ _ _) hs
  rw [Scope.prefixed, Text.splitTop, he]
  exact hr

-- ---------------------------------------------------------------------------
-- Names that keep their strings
-- ---------------------------------------------------------------------------

theorem standard_eq_prefixed (h : '@' ∉ text) (theme : Text) :
    Scope.standard (canonicalName text) theme = Scope.prefixed (canonicalName text) theme :=
  Scope.standard_eq_prefixed
    (fun hh => (mem_canonicalName (List.mem_of_mem_head? hh)).elim (by decide) h) theme

theorem isSpaced_of_infix_prefixed (h : IsQuoted s) (hi : s <:+: Scope.prefixed rule []) :
    Text.isSpaced s := by
  obtain ⟨quote, hq, -, hl⟩ := h.ends
  refine Text.isSpaced_of_infix (hi.trans (List.prefix_append _ ['.']).isInfix)
    (isSpaced_prefixed rule) fun c hc => ?_
  rw [hl] at hc
  exact Option.some.inj hc ▸ isBlank_of_isQuote hq

theorem squeezeBlanks_quoted (h : IsQuoted s) (hs : Text.isSpaced s) : Text.squeezeBlanks s = s := by
  obtain ⟨quote, hq, hh, -⟩ := h.ends
  refine Text.squeezeBlanks_eq_self hs fun c hc => ?_
  rw [hh] at hc
  exact Option.some.inj hc ▸ isBlank_of_isQuote hq

theorem quotedStrings_canonicalName_eq_self (hc : ∀ piece ∈ pieces text, piece.IsPlain)
    (hs : ∀ s ∈ quotedStrings text, Text.occursIn [' ', ' '] s = false) :
    quotedStrings (canonicalName text) = quotedStrings text := by
  have hsqueezed : (quotedStrings text).map squeezeSpaces = quotedStrings text :=
    (List.map_congr_left fun s hm => squeezeSpaces_eq_self (hs s hm)).trans (List.map_id _)
  rw [quotedStrings_canonicalName, eraseComments_of_plain hc, hsqueezed]

theorem occurInOrder_canonicalName_iff (hc : ∀ piece ∈ pieces text, piece.IsPlain) :
    OccurInOrder (quotedStrings text) (canonicalName text) ↔
      ∀ s ∈ quotedStrings text, Text.occursIn [' ', ' '] s = false := by
  constructor
  · intro h s hs
    have hi := h.infix_of_mem hs
    rw [Text.occursIn_eq_false_iff]
    exact fun hd => (Text.occursIn_eq_false_iff _ _).mp (occursIn_canonicalName text) (hd.trans hi)
  · intro hs
    rw [← quotedStrings_canonicalName_eq_self hc hs]
    exact Text.occurInOrder_quotedStrings _

theorem occurInOrder_prefixed_iff (hc : ∀ piece ∈ pieces text, piece.IsPlain) :
    (∀ theme, OccurInOrder (quotedStrings text) (Scope.prefixed (canonicalName text) theme)) ↔
      ∀ s ∈ quotedStrings text, Text.isSpaced s := by
  constructor
  · -- The empty class holds no string itself, so every string comes from the rule.
    intro h s hs
    exact isSpaced_of_infix_prefixed (Text.isQuoted_of_mem_quotedStrings hs)
      ((h []).infix_of_mem hs)
  · intro h theme
    have hname := quotedStrings_canonicalName_eq_self hc fun s hs => occursIn_of_isSpaced (h s hs)
    have hs : ∀ s ∈ quotedStrings text, Text.squeezeBlanks s = s := fun s hs =>
      squeezeBlanks_quoted (Text.isQuoted_of_mem_quotedStrings hs) (h s hs)
    have hsqueezed : (quotedStrings text).map Text.squeezeBlanks = quotedStrings text :=
      (List.map_congr_left hs).trans (List.map_id _)
    have ho := occurInOrder_prefixed (canonicalName text) theme
    rwa [hname, hsqueezed] at ho

/-- The quoted strings of a selector list occur in its canonical name, one after the other, exactly
when none of them has two spaces in a row, and in the scoped name of every theme exactly when every
blank in them is a single space. -/
theorem quoted_kept_iff (hc : ∀ piece ∈ pieces text, piece.IsPlain) (ha : '@' ∉ text) :
    (OccurInOrder (quotedStrings text) (canonicalName text) ↔
        ∀ s ∈ quotedStrings text, Text.occursIn [' ', ' '] s = false) ∧
      ((∀ theme, OccurInOrder (quotedStrings text) (Scope.standard (canonicalName text) theme)) ↔
        ∀ s ∈ quotedStrings text, Text.isSpaced s) := by
  refine ⟨occurInOrder_canonicalName_iff hc, ?_⟩
  simp only [standard_eq_prefixed ha]
  exact occurInOrder_prefixed_iff hc

def quotedList : Text := "a[title=\"b, (c\"] , .d[lang='[ ']"

theorem quoted_kept_iff_list :
    (∀ piece ∈ pieces quotedList, piece.IsPlain) ∧ '@' ∉ quotedList ∧
      ((OccurInOrder (quotedStrings quotedList) (canonicalName quotedList) ↔
          ∀ s ∈ quotedStrings quotedList, Text.occursIn [' ', ' '] s = false) ∧
        ((∀ theme, OccurInOrder (quotedStrings quotedList)
            (Scope.standard (canonicalName quotedList) theme)) ↔
          ∀ s ∈ quotedStrings quotedList, Text.isSpaced s)) ∧
      quotedStrings quotedList = ["\"b, (c\"".toList, "'[ '".toList] ∧
      ∀ theme, OccurInOrder ["\"b, (c\"".toList, "'[ '".toList]
        (Scope.standard (canonicalName quotedList) theme) := by
  have hc : ∀ piece ∈ pieces quotedList, piece.IsPlain :=
    isPlain_of_commentless (by decide +kernel)
  have ha : '@' ∉ quotedList := by
    decide +kernel
  have hs : quotedStrings quotedList = ["\"b, (c\"".toList, "'[ '".toList] := by
    decide +kernel
  have hk := quoted_kept_iff hc ha
  refine ⟨hc, ha, hk, hs, ?_⟩
  rw [← hs]
  refine hk.2.mpr ?_
  rw [hs]
  decide +kernel

def spacedTitle : Text := "[title=\"a  b\"]"

def nonBreakingTitle : Text := "[title=\"a\u00a0b\"]"

/-- Spaces in quotes are squeezed in the canonical name, and any other blank there is one in the
scoped name. -/
theorem not_quoted_kept :
    (¬ ∀ text, (∀ piece ∈ pieces text, piece.IsPlain) →
        Nesting.passes? .roundSquare none .top text = some .top →
        (∀ c ∈ text, c ≠ '{' ∧ c ≠ '}' ∧ c ≠ ';' ∧ c ≠ '@') →
          OccurInOrder (quotedStrings text) (canonicalName text)) ∧
      ¬ ∀ text theme, (∀ piece ∈ pieces text, piece.IsPlain) →
        Nesting.passes? .roundSquare none .top text = some .top →
        (∀ c ∈ text, c ≠ '{' ∧ c ≠ '}' ∧ c ≠ ';' ∧ c ≠ '@') →
          OccurInOrder (quotedStrings text) (canonicalName text) →
          OccurInOrder (quotedStrings text) (Scope.standard (canonicalName text) theme) := by
  refine ⟨fun h => ?_, fun h => ?_⟩
  · have hp : ∀ piece ∈ pieces spacedTitle, piece.IsPlain :=
      isPlain_of_commentless (by decide +kernel)
    have ho := h spacedTitle hp (by decide +kernel) (by decide +kernel)
    have hm : "\"a  b\"".toList ∈ quotedStrings spacedTitle := by decide +kernel
    have hn : Text.occursIn "\"a  b\"" (canonicalName spacedTitle) = false := by decide +kernel
    exact (Text.occursIn_eq_false_iff _ _).mp hn (ho.infix_of_mem hm)
  · have hp : ∀ piece ∈ pieces nonBreakingTitle, piece.IsPlain :=
      isPlain_of_commentless (by decide +kernel)
    have hs : quotedStrings nonBreakingTitle = ["\"a\u00a0b\"".toList] := by decide +kernel
    have hname : OccurInOrder (quotedStrings nonBreakingTitle) (canonicalName nonBreakingTitle) := by
      rw [hs]
      exact ⟨"[title=", "]", by decide +kernel, trivial⟩
    have ho := h nonBreakingTitle "dark" hp (by decide +kernel) (by decide +kernel) hname
    have hn : Text.occursIn "\"a\u00a0b\""
        (Scope.standard (canonicalName nonBreakingTitle) "dark") = false := by decide +kernel
    rw [hs] at ho
    exact (Text.occursIn_eq_false_iff _ _).mp hn (ho.infix_of_mem (List.mem_singleton_self _))

end Retheme.Sheet
