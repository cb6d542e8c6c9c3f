import Mathlib.Logic.Relation
import Retheme.Proofs.Scope.ThemeClass
import Retheme.Proofs.Sheet.NamePart
import Retheme.Proofs.Sheet.Property
import Retheme.Proofs.Text.Members
import Retheme.Proofs.Text.Words

/-!
# White space in scoped rules

A scoped rule shows nothing of the blanks of its selector list but where the
words of its selectors end. Trimming, squeezing and cutting all keep the words
of the selectors, so the passes that a list goes through can be looked at one by
one, in terms of the words before and after.
-/

namespace Retheme.Scope

open Sheet (canonicalName eraseComments squeezeSpaces isSelectorBlank)

variable {a b gap other piece raw text theme : Text} {nesting : Nesting} {pieces : List Text}

def selectorWords (text : Text) : List (List Text) := (text.splitTop ',').map Text.words

-- ---------------------------------------------------------------------------
-- What keeps the words
-- ---------------------------------------------------------------------------

theorem words_squeezeSpaces (text : Text) : Text.words (squeezeSpaces text) = text.words := by
  fun_induction squeezeSpaces text with
  | case1 rest ih => rw [ih, Text.words_of_isBlank (by decide) (' ' :: rest)]
  | case2 c rest _ ih =>
    exact Text.words_cons_congr ih fun _ => by rw [Sheet.head?_squeezeSpaces]
  | case3 => rfl

theorem isPlain_of_blanks (hg : ∀ c ∈ gap, Text.isBlank c = true) : IsPlain gap := fun c hc =>
  isPlain_of_isBlank (hg c hc)

theorem map_words_split_append (hn : nesting.IsProper) (hg : ∀ c ∈ gap, Text.isBlank c = true)
    (b : Text) : (nesting.split .roundSquare ',' (gap ++ b)).map Text.words =
      (nesting.split .roundSquare ',' b).map Text.words := by
  obtain ⟨piece, pieces, hb⟩ := List.exists_cons_of_ne_nil
    (Nesting.split_ne_nil .roundSquare ',' nesting b)
  rw [Nesting.split_plain_append hn (isPlain_of_blanks hg) hb, hb, List.map_cons, List.map_cons,
    Text.words_append_left hg]

theorem words_eq_nil_of_mem_split (hw : Text.words text = [])
    (hp : piece ∈ nesting.split .roundSquare ',' text) : Text.words piece = [] := by
  rw [Text.words_eq_nil_iff] at hw ⊢
  exact fun c hc => hw c (Nesting.mem_of_mem_split hp hc)

theorem any_head?_squeezed {first : Text} {back : List Text}
    (hs : nesting.split .roundSquare ',' (Text.blankGap text ++ Text.squeezeBlanks text) =
      first :: back)
    (hp : nesting.split .roundSquare ',' text = piece :: pieces) (hw : Text.words piece ≠ []) :
    first.head?.any Text.isBlank = piece.head?.any Text.isBlank := by
  have hfirst := Nesting.head?_of_split hs
  have hpiece := Nesting.head?_of_split hp
  cases text with
  | nil => rw [hfirst, hpiece]; rfl
  | cons d more =>
    cases hd : Text.isBlank d with
    | false =>
      have hg : Text.blankGap (d :: more) = [] := Text.blankGap_eq_nil (by simpa using hd)
      rw [hfirst, hpiece, hg, List.nil_append, Text.squeezeBlanks_cons hd]
      rfl
    | true =>
      -- The piece has a character that is no blank, so one space is left of the blanks in front.
      have hn : ¬ ∀ c ∈ d :: more, Text.isBlank c = true := fun h =>
        hw (words_eq_nil_of_mem_split (Text.words_eq_nil_iff.mpr h) (hp ▸ List.mem_cons_self))
      have hg : Text.blankGap (d :: more) = [' '] := by
        rw [Text.blankGap, if_pos]
        simpa [hd] using hn
      have hsep (c : Char) (hc : Text.isBlank c = true) :
          nesting.separates .roundSquare ',' c = false :=
        Nesting.separates_plain nesting (isPlain_of_isBlank hc)
      rw [hfirst, hpiece, hg]
      simp [Option.filter, hsep, hd, show Text.isBlank ' ' = true from rfl]

/-- A text that is squeezed is cut where it was, and its pieces have the words they had. -/
theorem map_words_split_squeezeBlanks (hn : nesting.IsProper) (text : Text) :
    (nesting.split .roundSquare ',' (Text.squeezeBlanks text)).map Text.words =
      (nesting.split .roundSquare ',' text).map Text.words := by
  induction text generalizing nesting with
  | nil => rfl
  | cons c rest ih =>
    cases hb : Text.isBlank c with
    | true =>
      rw [Text.squeezeBlanks_of_isBlank hb, ih hn]
      exact (@map_words_split_append [c] nesting hn (by simpa using hb) rest).symm
    | false =>
      have hafter : (nesting.after .roundSquare c).IsProper := hn.after c
      have hgap : ∀ d ∈ Text.blankGap rest, Text.isBlank d = true := fun d hd => by
        rw [Text.mem_blankGap hd]
        rfl
      have hih := (map_words_split_append hafter hgap (Text.squeezeBlanks rest)).trans (ih hafter)
      rw [Text.squeezeBlanks_cons hb]
      cases hs : nesting.separates .roundSquare ',' c with
      | true =>
        rw [Nesting.split_cons_of_separates hs, Nesting.split_cons_of_separates hs, List.map_cons,
          hih, List.map_cons]
      | false =>
        obtain ⟨first, back, hsqueezed⟩ := List.exists_cons_of_ne_nil
          (Nesting.split_ne_nil .roundSquare ',' (nesting.after .roundSquare c)
            (Text.blankGap rest ++ Text.squeezeBlanks rest))
        obtain ⟨piece, pieces, hrest⟩ := List.exists_cons_of_ne_nil
          (Nesting.split_ne_nil .roundSquare ',' (nesting.after .roundSquare c) rest)
        rw [hsqueezed, hrest, List.map_cons, List.map_cons] at hih
        obtain ⟨hw, hback⟩ := List.cons.inj hih
        have hcons : Text.words (c :: first) = Text.words (c :: piece) :=
          Text.words_cons_congr hw fun hne => any_head?_squeezed hsqueezed hrest (hw ▸ hne)
        rw [Nesting.split_cons_of_not_separates hs hsqueezed,
          Nesting.split_cons_of_not_separates hs hrest, List.map_cons, hcons, hback, List.map_cons]

theorem selectorWords_squeezeBlanks (text : Text) :
    selectorWords (Text.squeezeBlanks text) = selectorWords text :=
  map_words_split_squeezeBlanks Nesting.isProper_top text

/-- The selectors of a canonical name are those of the list, squeezed and trimmed. -/
theorem splitTop_canonicalName (raw : Text) : (canonicalName raw).splitTop ',' =
    ((squeezeSpaces (eraseComments raw)).splitTop ',').map (Text.trim isSelectorBlank) :=
  ((Nesting.cuts_split .roundSquare ',' .top _).map Nesting.isProper_top
    (Nesting.trim_unnoticed fun _ => Sheet.isPlain_of_isSelectorBlank)).split_join separates_comma

theorem selectorWords_canonicalName (raw : Text) :
    selectorWords (canonicalName raw) = selectorWords (eraseComments raw) := by
  rw [selectorWords, splitTop_canonicalName, Text.splitTop,
    Sheet.split_squeezeSpaces (by decide) Nesting.isProper_top, List.map_map, List.map_map]
  refine List.map_congr_left fun piece _ => ?_
  exact (Text.words_trim (fun _ => Sheet.isBlank_of_isSelectorBlank) _).trans
    (words_squeezeSpaces piece)

-- ---------------------------------------------------------------------------
-- Scoped names in terms of words
-- ---------------------------------------------------------------------------

theorem prefixed_eq (rule theme : Text) :
    prefixed rule theme = Text.join ", " ((selectorWords rule).map fun words =>
      className theme ++ [' '] ++ Text.join [' '] words) := by
  have hs : ∀ selector ∈ (Text.squeezeBlanks rule).splitTop ',',
      Text.strip selector = Text.join [' '] (Text.words selector) := fun selector hm =>
    Text.strip_eq_squeezeBlanks (Text.isSpaced_strip_of_infix (Nesting.infix_of_mem_split hm))
  rw [prefixed, ← selectorWords_squeezeBlanks, selectorWords, List.map_map]
  refine congrArg (Text.join ", ") (List.map_congr_left fun selector hm => ?_)
  rw [hs selector hm]
  rfl

theorem standard_canonicalName_eq_prefixed
    (ha : ((eraseComments raw).dropWhile Text.isBlank).head? ≠ some '@') (theme : Text) :
    standard (canonicalName raw) theme = prefixed (canonicalName raw) theme := by
  refine standard_eq_prefixed (fun hh => ?_) theme
  have hd := Sheet.head?_join_nameParts_dropWhile (eraseComments raw)
  rw [show Text.join [','] (Sheet.nameParts (eraseComments raw)) = canonicalName raw from rfl, hh]
    at hd
  obtain ⟨rest, hr⟩ := List.head?_eq_some_iff.mp hd.symm
  -- The blanks of every script go on behind the selector blanks, up to the at sign.
  have hb : ∀ c ∈ (eraseComments raw).takeWhile isSelectorBlank, Text.isBlank c = true :=
    fun _ hc => Sheet.isBlank_of_isSelectorBlank (List.mem_takeWhile_imp hc)
  apply ha
  rw [← List.takeWhile_append_dropWhile (p := isSelectorBlank) (l := eraseComments raw), hr,
    List.dropWhile_append_of_pos hb, List.dropWhile_cons_of_neg (by decide)]
  rfl

-- ---------------------------------------------------------------------------
-- Other white space
-- ---------------------------------------------------------------------------

/-- One change of the blanks of a selector list: between two words, at an end, or beside a comma
that separates selectors. -/
inductive Respaces : Text → Text → Prop
  | between (a b : Text) {gap other : Text} (hn : gap ≠ []) (ho : other ≠ [])
      (hg : ∀ c ∈ gap, Text.isBlank c = true) (hb : ∀ c ∈ other, Text.isBlank c = true) :
      Respaces (a ++ (gap ++ b)) (a ++ (other ++ b))
  | start (b : Text) {gap : Text} (hg : ∀ c ∈ gap, Text.isBlank c = true) : Respaces (gap ++ b) b
  | stop (a : Text) {gap : Text} (hg : ∀ c ∈ gap, Text.isBlank c = true) : Respaces (a ++ gap) a
  | beforeComma (a b : Text) {gap : Text} (hg : ∀ c ∈ gap, Text.isBlank c = true)
      (ht : Nesting.top.behind .roundSquare a = .top) :
      Respaces (a ++ (gap ++ ',' :: b)) (a ++ ',' :: b)
  | behindComma (a b : Text) {gap : Text} (hg : ∀ c ∈ gap, Text.isBlank c = true)
      (ht : Nesting.top.behind .roundSquare a = .top) :
      Respaces (a ++ ',' :: (gap ++ b)) (a ++ ',' :: b)

/-- Two texts differ in the amount and kind of blanks between words, at the ends, and beside commas
that separate selectors. -/
abbrev Respaced : Text → Text → Prop := Relation.EqvGen Respaces

theorem exists_selectorWords_append (a : Text) :
    ∃ front last, ∀ b first back,
      (Nesting.top.behind .roundSquare a).split .roundSquare ',' b = first :: back →
        selectorWords (a ++ b) = front ++ Text.words (last ++ first) :: back.map Text.words := by
  obtain ⟨front, last, ha⟩ := Nesting.exists_last_split .roundSquare ',' .top a
  refine ⟨front.map Text.words, last, fun b first back hb => ?_⟩
  rw [selectorWords, Text.splitTop, Nesting.split_append_split ha hb, List.map_append,
    List.map_cons]

theorem Respaces.selectorWords_eq (h : Respaces raw other) :
    selectorWords raw = selectorWords other := by
  have hproper (a : Text) : (Nesting.top.behind .roundSquare a).IsProper :=
    Nesting.isProper_top.behind a
  cases h with
  | between a b hn ho hg hb =>
    obtain ⟨front, last, hs⟩ := exists_selectorWords_append a
    obtain ⟨first, back, hf, -⟩ := Nesting.exists_first_split .roundSquare ','
      (Nesting.top.behind .roundSquare a) b
    rw [hs _ _ _ (Nesting.split_plain_append (hproper a) (isPlain_of_blanks hg) hf),
      hs _ _ _ (Nesting.split_plain_append (hproper a) (isPlain_of_blanks hb) hf),
      Text.words_append_gap hn hg, Text.words_append_gap ho hb]
  | start b hg => exact map_words_split_append Nesting.isProper_top hg other
  | stop a hg =>
    obtain ⟨front, last, hs⟩ := exists_selectorWords_append other
    have hend := hs [] [] [] rfl
    rw [List.append_nil, List.append_nil] at hend
    rw [hs _ _ _ (Nesting.split_of_isWhole
      (Nesting.isWhole_plain (hproper other) (isPlain_of_blanks hg))), hend,
      Text.words_append_right _ hg]
  | beforeComma a b hg ht =>
    obtain ⟨front, last, hs⟩ := exists_selectorWords_append a
    have hcomma := Nesting.split_cons_of_separates separates_comma b
    rw [ht] at hs
    rw [hs _ _ _ (Nesting.split_plain_append Nesting.isProper_top (isPlain_of_blanks hg) hcomma),
      hs _ _ _ hcomma, List.append_nil, List.append_nil, Text.words_append_right _ hg]
  | behindComma a b hg ht =>
    obtain ⟨front, last, hs⟩ := exists_selectorWords_append a
    rw [ht] at hs
    rw [hs _ _ _ (Nesting.split_cons_of_separates separates_comma _),
      hs _ _ _ (Nesting.split_cons_of_separates separates_comma b),
      Nesting.after_top_separator separates_comma,
      map_words_split_append Nesting.isProper_top hg]

theorem selectorWords_eq_of_respaced (h : Respaced raw other) :
    selectorWords raw = selectorWords other := by
  induction h with
  | rel _ _ h => exact h.selectorWords_eq
  | refl => rfl
  | symm _ _ _ ih => exact ih.symm
  | trans _ _ _ _ _ ih ih' => exact ih.trans ih'

structure IsSelectorList (raw : Text) : Prop where
  plain : ∀ piece ∈ Sheet.pieces raw, piece.IsPlain
  head : (raw.dropWhile Text.isBlank).head? ≠ some '@'

theorem IsSelectorList.standard_eq (h : IsSelectorList raw) (theme : Text) :
    standard (canonicalName raw) theme = Text.join ", " ((selectorWords raw).map fun words =>
      className theme ++ [' '] ++ Text.join [' '] words) := by
  have he : eraseComments raw = raw := Sheet.eraseComments_of_plain h.plain
  rw [standard_canonicalName_eq_prefixed (by rw [he]; exact h.head), prefixed_eq,
    selectorWords_canonicalName, he]

/-- The scope of a selector list puts the class of the theme in front of the words of every
selector, with one space between them. Lists that differ in white space alone are scoped alike. -/
theorem standard_canonicalName (h : IsSelectorList raw) (theme : Text) :
    standard (canonicalName raw) theme =
        Text.join ", " ((raw.splitTop ',').map fun selector =>
          className theme ++ [' '] ++ Text.join [' '] (Text.words selector)) ∧
      ∀ other, IsSelectorList other → Respaced raw other →
        standard (canonicalName other) theme = standard (canonicalName raw) theme := by
  refine ⟨?_, fun other ho hr => ?_⟩
  · rw [h.standard_eq, selectorWords, List.map_map]
    rfl
  · rw [ho.standard_eq, h.standard_eq, selectorWords_eq_of_respaced hr]

def looseList : Text := "\n.a\u00a0\t.b:is(.c, .d)) ,.e"

def tightList : Text := ".a .b:is(.c, .d)),.e"

theorem respaced_looseList : Respaced looseList tightList := by
  let last : Text := ".b:is(.c, .d)) ,.e"
  have hloose : looseList = ['\n'] ++ (['.', 'a'] ++ (['\u00a0', '\t'] ++ last)) := by decide
  have hgap : ['.', 'a'] ++ ([' '] ++ last) =
      ".a .b:is(.c, .d))".toList ++ ([' '] ++ ',' :: ['.', 'e']) := by decide
  have htight : tightList = ".a .b:is(.c, .d))".toList ++ ',' :: ['.', 'e'] := by decide
  have hbetween : Respaces (['.', 'a'] ++ (['\u00a0', '\t'] ++ last))
      (['.', 'a'] ++ ([' '] ++ last)) :=
    .between _ last (by decide) (by decide) (by decide) (by decide)
  have hcomma : Respaces (['.', 'a'] ++ ([' '] ++ last)) tightList := by
    rw [hgap, htight]
    exact .beforeComma _ _ (by decide) (by decide)
  rw [hloose]
  exact .trans _ _ _ (.rel _ _ (.start _ (by decide)))
    (.trans _ _ _ (.rel _ _ hbetween) (.rel _ _ hcomma))

theorem standard_canonicalName_looseList :
    IsSelectorList looseList ∧ IsSelectorList tightList ∧ Respaced looseList tightList ∧
      standard (canonicalName looseList) "dark" = ".dark .a .b:is(.c, .d)), .dark .e" ∧
      standard (canonicalName tightList) "dark" = standard (canonicalName looseList) "dark" := by
  have hl : IsSelectorList looseList :=
    ⟨Sheet.isPlain_of_commentless (by decide +kernel), by decide +kernel⟩
  have ht : IsSelectorList tightList :=
    ⟨Sheet.isPlain_of_commentless (by decide +kernel), by decide +kernel⟩
  obtain ⟨he, ho⟩ := standard_canonicalName hl "dark"
  refine ⟨hl, ht, respaced_looseList, ?_, ho tightList ht respaced_looseList⟩
  rw [he]
  decide +kernel

end Retheme.Scope
