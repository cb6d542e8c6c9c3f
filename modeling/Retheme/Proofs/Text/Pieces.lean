import Retheme.Proofs.Text.Ends
import Retheme.Proofs.Text.Nesting
import Retheme.Proofs.Text.Split

/-!
# The pieces of a text

A text is cut into pieces by the separators at the top, whatever closing
brackets it holds. Characters that are no quotes, brackets or separators go
unnoticed: put in anywhere, they change one piece, and put around pieces that
are joined again they keep them apart.
-/

namespace Retheme.Nesting

variable {brackets : Brackets} {separator c : Char} {nesting : Nesting} {a b text gap : Text}
  {piece last first : Text} {pieces front back : List Text}

def behind (brackets : Brackets) (nesting : Nesting) (text : Text) : Nesting :=
  text.foldl (after brackets) nesting

theorem behind_append (a b : Text) :
    behind brackets nesting (a ++ b) = behind brackets (behind brackets nesting a) b :=
  List.foldl_append

theorem quote_after (brackets : Brackets) (nesting : Nesting) (c : Char) :
    (nesting.after brackets c).quote =
      match nesting.quote with
      | some quote => if c = quote then none else some quote
      | none => if isQuote c then some c else none := by
  obtain ⟨depth, quote⟩ := nesting
  cases quote with
  | some quote => by_cases hc : c = quote <;> simp [after, hc]
  | none =>
    cases hq : isQuote c with
    | true => simp [after, hq]
    | false =>
      simp only [after, hq, Bool.false_eq_true, if_false]
      split
      · rfl
      · split <;> rfl

theorem quote_behind (brackets other : Brackets) {nesting nesting' : Nesting}
    (h : nesting.quote = nesting'.quote) (text : Text) :
    (nesting.behind brackets text).quote = (nesting'.behind other text).quote := by
  induction text generalizing nesting nesting' with
  | nil => exact h
  | cons c rest ih => exact ih (by rw [quote_after, quote_after, h])

-- ---------------------------------------------------------------------------
-- Unnoticed characters
-- ---------------------------------------------------------------------------

def IsProper (nesting : Nesting) : Prop := ∀ quote, nesting.quote = some quote → isQuote quote = true

theorem isProper_top : IsProper top := nofun

theorem IsProper.after (h : IsProper nesting) (c : Char) : IsProper (nesting.after brackets c) := by
  intro quote hq
  simp only [Nesting.after] at hq
  split at hq
  · split at hq
    · cases hq
    · exact h quote hq
  · split at hq
    · next hc =>
      cases hq
      exact hc
    · split at hq
      · exact h quote hq
      · split at hq <;> exact h quote hq

theorem IsProper.behind (h : IsProper nesting) (text : Text) :
    IsProper (nesting.behind brackets text) := by
  induction text generalizing nesting with
  | nil => exact h
  | cons c rest ih => exact ih (h.after c)

theorem quote_behind_of_not_quote (h : IsProper nesting) (ht : ∀ c ∈ text, isQuote c = false) :
    (nesting.behind brackets text).quote = nesting.quote := by
  induction text generalizing nesting with
  | nil => rfl
  | cons c rest ih =>
    have ha : (nesting.after brackets c).quote = nesting.quote := by
      rw [quote_after]
      split
      · next quote hq =>
        have hne : c ≠ quote := by
          rintro rfl
          simp [h c hq] at ht
        rw [if_neg hne, hq]
      · next hq => simp [ht c List.mem_cons_self, hq]
    rw [← ha]
    exact ih (h.after c) fun d hd => ht d (List.mem_cons_of_mem _ hd)

theorem after_plain (h : IsProper nesting) (hc : isPlain brackets (some separator) c = true) :
    nesting.after brackets c = nesting := by
  simp only [isPlain, Bool.and_eq_true, Bool.not_eq_eq_eq_not, Bool.not_true] at hc
  obtain ⟨⟨⟨hq, ho⟩, hl⟩, -⟩ := hc
  rw [Nesting.after]
  split
  · next quote hs =>
    have hne : c ≠ quote := fun he => by simp [he, h quote hs] at hq
    rw [if_neg hne]
  · simp [hq, ho, hl]

theorem separates_plain (nesting : Nesting) (hc : isPlain brackets (some separator) c = true) :
    nesting.separates brackets separator c = false := by
  have hs : c ≠ separator := by
    rintro rfl
    simp [isPlain] at hc
  simp [separates, hs]

theorem behind_plain (h : IsProper nesting)
    (ht : ∀ c ∈ text, isPlain brackets (some separator) c = true) :
    nesting.behind brackets text = nesting := by
  induction text with
  | nil => rfl
  | cons c rest ih =>
    rw [behind, List.foldl_cons, after_plain h (ht c (by simp))]
    exact ih fun d hd => ht d (List.mem_cons_of_mem _ hd)

-- ---------------------------------------------------------------------------
-- Texts without separators
-- ---------------------------------------------------------------------------

def IsWhole (brackets : Brackets) (separator : Char) (nesting : Nesting) : Text → Prop
  | [] => True
  | c :: rest => nesting.separates brackets separator c = false ∧
      IsWhole brackets separator (nesting.after brackets c) rest

theorem isWhole_append_iff :
    IsWhole brackets separator nesting (a ++ b) ↔
      IsWhole brackets separator nesting a ∧
        IsWhole brackets separator (nesting.behind brackets a) b := by
  induction a generalizing nesting with
  | nil => simp [IsWhole, behind]
  | cons c a ih => rw [List.cons_append, IsWhole, IsWhole, ih, and_assoc]; rfl

theorem isWhole_plain (h : IsProper nesting)
    (ht : ∀ c ∈ text, isPlain brackets (some separator) c = true) :
    IsWhole brackets separator nesting text := by
  induction text with
  | nil => trivial
  | cons c rest ih =>
    refine ⟨separates_plain nesting (ht c (by simp)), ?_⟩
    rw [after_plain h (ht c (by simp))]
    exact ih fun d hd => ht d (List.mem_cons_of_mem _ hd)

theorem behind_plain_append (h : IsProper nesting)
    (ha : ∀ c ∈ a, isPlain brackets (some separator) c = true) (b : Text) :
    nesting.behind brackets (a ++ b) = nesting.behind brackets b := by
  rw [behind_append, behind_plain h ha]

theorem isWhole_plain_append_iff (h : IsProper nesting)
    (ha : ∀ c ∈ a, isPlain brackets (some separator) c = true) :
    IsWhole brackets separator nesting (a ++ b) ↔ IsWhole brackets separator nesting b := by
  rw [isWhole_append_iff, behind_plain h ha]
  exact and_iff_right (isWhole_plain h ha)

theorem isWhole_of_passes? {brackets : Brackets} {separator : Char} {nesting last : Nesting}
    {text : Text} (h : passes? brackets (some separator) nesting text = some last) :
    IsWhole brackets separator nesting text := by
  induction text generalizing nesting with
  | nil => trivial
  | cons c rest ih =>
    obtain ⟨-, hs, hr⟩ := passes?_cons h
    exact ⟨by simpa using hs, ih hr⟩

theorem split_cons_of_not_separates (h : nesting.separates brackets separator c = false)
    (hs : split brackets separator (nesting.after brackets c) text = piece :: pieces) :
    split brackets separator nesting (c :: text) = (c :: piece) :: pieces := by
  rw [split, hs]
  simp [h]

theorem split_append_of_isWhole (h : IsWhole brackets separator nesting a)
    (hs : split brackets separator (nesting.behind brackets a) b = piece :: pieces) :
    split brackets separator nesting (a ++ b) = (a ++ piece) :: pieces := by
  induction a generalizing nesting with
  | nil => exact hs
  | cons c a ih => exact split_cons_of_not_separates h.1 (ih h.2 hs)

theorem split_of_isWhole (h : IsWhole brackets separator nesting text) :
    split brackets separator nesting text = [text] := by
  have hn : split brackets separator (nesting.behind brackets text) [] = [[]] := rfl
  simpa using split_append_of_isWhole h hn

-- ---------------------------------------------------------------------------
-- Putting characters in
-- ---------------------------------------------------------------------------

theorem split_cons_of_separates (h : nesting.separates brackets separator c = true) (text : Text) :
    split brackets separator nesting (c :: text) =
      [] :: split brackets separator (nesting.after brackets c) text := by
  rw [split, if_pos h]

theorem split_append_split (ha : split brackets separator nesting a = front ++ [last])
    (hb : split brackets separator (nesting.behind brackets a) b = first :: back) :
    split brackets separator nesting (a ++ b) = front ++ (last ++ first) :: back := by
  induction a generalizing nesting front last with
  | nil =>
    have he : [] ++ [[]] = front ++ [last] := ha
    obtain ⟨rfl, hl⟩ := List.append_inj' he rfl
    cases hl
    exact hb
  | cons c a ih =>
    obtain ⟨piece, pieces, hs⟩ := List.exists_cons_of_ne_nil
      (split_ne_nil brackets separator (nesting.after brackets c) a)
    cases hc : nesting.separates brackets separator c with
    | true =>
      rw [split_cons_of_separates hc, hs] at ha
      cases front with
      | nil => cases ha
      | cons piece front =>
        obtain ⟨rfl, hr⟩ := List.cons.inj ha
        rw [List.cons_append, split_cons_of_separates hc, ih (hs.trans hr) hb]
        rfl
    | false =>
      rw [split_cons_of_not_separates hc hs] at ha
      cases front with
      | nil =>
        obtain ⟨rfl, rfl⟩ := List.cons.inj ha
        have hr := @ih _ piece [] hs hb
        exact split_cons_of_not_separates hc hr
      | cons next front =>
        obtain ⟨rfl, hr⟩ := List.cons.inj ha
        have ht := @ih _ last (piece :: front) (hs.trans (congrArg (piece :: ·) hr)) hb
        exact split_cons_of_not_separates hc ht

theorem exists_last_split (brackets : Brackets) (separator : Char) (nesting : Nesting)
    (text : Text) : ∃ front last, split brackets separator nesting text = front ++ [last] := by
  rcases List.eq_nil_or_concat (split brackets separator nesting text) with hn | ⟨front, last, h⟩
  · exact absurd hn (split_ne_nil _ _ _ _)
  · exact ⟨front, last, h.trans List.concat_eq_append⟩

theorem exists_first_split (brackets : Brackets) (separator : Char) (nesting : Nesting)
    (text : Text) :
    ∃ first back, split brackets separator nesting text = first :: back ∧ first <+: text := by
  induction text generalizing nesting with
  | nil => exact ⟨[], [], rfl, List.prefix_refl _⟩
  | cons c rest ih =>
    obtain ⟨first, back, hs, hp⟩ := ih (nesting.after brackets c)
    cases hc : nesting.separates brackets separator c with
    | true => exact ⟨[], _, split_cons_of_separates hc rest, List.nil_prefix⟩
    | false =>
      exact ⟨c :: first, back, split_cons_of_not_separates hc hs, (List.prefix_cons_inj c).mpr hp⟩

theorem head?_of_split (hs : split brackets separator nesting text = piece :: pieces) :
    piece.head? = text.head?.filter fun c => !nesting.separates brackets separator c := by
  cases text with
  | nil =>
    cases hs
    rfl
  | cons c rest =>
    cases hc : nesting.separates brackets separator c with
    | true =>
      rw [split_cons_of_separates hc] at hs
      cases hs
      simp [Option.filter, hc]
    | false =>
      obtain ⟨first, back, hr, -⟩ :=
        exists_first_split brackets separator (nesting.after brackets c) rest
      rw [split_cons_of_not_separates hc hr] at hs
      cases hs
      simp [Option.filter, hc]

theorem split_plain_append (h : IsProper nesting)
    (ha : ∀ c ∈ a, isPlain brackets (some separator) c = true)
    (hs : split brackets separator nesting b = piece :: pieces) :
    split brackets separator nesting (a ++ b) = (a ++ piece) :: pieces :=
  split_append_of_isWhole (isWhole_plain h ha) (by rwa [behind_plain h ha])

/-- Unnoticed characters that are put in stand in one piece, and no other piece changes. -/
theorem split_insert (h : IsProper nesting) {added : Text}
    (hp : ∀ c ∈ added, isPlain brackets (some separator) c = true) (a b : Text) :
    ∃ front last first back,
      split brackets separator nesting (a ++ b) = front ++ (last ++ first) :: back ∧
      split brackets separator nesting (a ++ (added ++ b)) =
        front ++ (last ++ (added ++ first)) :: back ∧ first <+: b := by
  obtain ⟨front, last, ha⟩ := exists_last_split brackets separator nesting a
  obtain ⟨first, back, hb, hf⟩ :=
    exists_first_split brackets separator (nesting.behind brackets a) b
  have hn : IsProper (nesting.behind brackets a) := h.behind a
  have hadd := split_plain_append hn hp hb
  exact ⟨front, last, first, back, split_append_split ha hb, split_append_split ha hadd, hf⟩

-- ---------------------------------------------------------------------------
-- Joining pieces again
-- ---------------------------------------------------------------------------

/-- Pieces as they are cut out of a text: behind each of them but the last the reader is at the
top. -/
inductive Cuts (brackets : Brackets) (separator : Char) : Nesting → List Text → Prop
  | last {nesting : Nesting} {piece : Text} (h : IsWhole brackets separator nesting piece) :
      Cuts brackets separator nesting [piece]
  | more {nesting : Nesting} {piece : Text} {pieces : List Text}
      (h : IsWhole brackets separator nesting piece) (ht : nesting.behind brackets piece = top)
      (hr : Cuts brackets separator top pieces) : Cuts brackets separator nesting (piece :: pieces)

theorem after_top_separator (hs : top.separates brackets separator separator = true) :
    top.after brackets separator = top := by
  simp only [separates, Bool.and_eq_true, Bool.not_eq_eq_eq_not, Bool.not_true] at hs
  obtain ⟨⟨⟨-, hq⟩, ho⟩, hc⟩ := hs
  simp [after, top, hq, ho, hc]

theorem eq_of_separates (h : nesting.separates brackets separator c = true) :
    c = separator ∧ nesting = top := by
  simp only [separates, Bool.and_eq_true, decide_eq_true_eq] at h
  exact ⟨h.1.1.1.1, h.1.1.1.2⟩

theorem cuts_split (brackets : Brackets) (separator : Char) (nesting : Nesting) (text : Text) :
    Cuts brackets separator nesting (split brackets separator nesting text) := by
  induction text generalizing nesting with
  | nil => exact .last trivial
  | cons c rest ih =>
    have hr := ih (nesting.after brackets c)
    cases hc : nesting.separates brackets separator c with
    | true =>
      obtain ⟨rfl, rfl⟩ := eq_of_separates hc
      rw [after_top_separator hc] at hr
      rw [split_cons_of_separates hc, after_top_separator hc]
      exact .more trivial rfl hr
    | false =>
      obtain ⟨piece, pieces, hs⟩ := List.exists_cons_of_ne_nil
        (split_ne_nil brackets separator (nesting.after brackets c) rest)
      rw [split_cons_of_not_separates hc hs]
      rw [hs] at hr
      cases hr with
      | last h => exact .last ⟨hc, h⟩
      | more h ht hr => exact .more ⟨hc, h⟩ ht hr

theorem split_append_cons_of_isWhole (h : IsWhole brackets separator nesting a)
    (ht : nesting.behind brackets a = top)
    (hs : top.separates brackets separator separator = true) (b : Text) :
    split brackets separator nesting (a ++ separator :: b) =
      a :: split brackets separator top b := by
  have hr : split brackets separator (nesting.behind brackets a) (separator :: b) =
      [] :: split brackets separator top b := by
    rw [ht, split_cons_of_separates hs, after_top_separator hs]
  simpa using split_append_of_isWhole h hr

theorem join_split (brackets : Brackets) (separator : Char) (nesting : Nesting) (text : Text) :
    Text.join [separator] (split brackets separator nesting text) = text := by
  induction text generalizing nesting with
  | nil => rfl
  | cons c rest ih =>
    have hr := ih (nesting.after brackets c)
    have hn := split_ne_nil brackets separator (nesting.after brackets c) rest
    cases hc : nesting.separates brackets separator c with
    | true =>
      rw [split_cons_of_separates hc, Text.join_cons _ _ hn, hr, (eq_of_separates hc).1]
      rfl
    | false =>
      obtain ⟨piece, pieces, hs⟩ := List.exists_cons_of_ne_nil hn
      rw [hs] at hr
      rw [split_cons_of_not_separates hc hs, ← hr]
      cases pieces <;> rfl

theorem infix_of_mem_split (h : piece ∈ split brackets separator nesting text) : piece <:+: text := by
  have hi := Text.infix_join [separator] h
  rwa [join_split] at hi

/-- Pieces come apart where they were joined. -/
theorem Cuts.split_join (h : Cuts brackets separator nesting pieces)
    (hs : top.separates brackets separator separator = true) :
    split brackets separator nesting (Text.join [separator] pieces) = pieces := by
  induction h with
  | last h => exact split_of_isWhole h
  | @more nesting piece pieces h ht hr ih =>
    have hne : pieces ≠ [] := by
      rintro rfl
      cases hr
    rw [Text.join_cons _ _ hne, List.append_assoc, List.singleton_append,
      split_append_cons_of_isWhole h ht hs, ih]

def Unnoticed (brackets : Brackets) (separator : Char) (f : Text → Text) : Prop :=
  ∀ nesting piece, IsProper nesting → IsWhole brackets separator nesting piece →
    IsWhole brackets separator nesting (f piece) ∧
      nesting.behind brackets (f piece) = nesting.behind brackets piece

theorem trim_unnoticed {p : Char → Bool}
    (hp : ∀ c, p c = true → isPlain brackets (some separator) c = true) :
    Unnoticed brackets separator (Text.trim p) := by
  intro nesting piece hn h
  obtain ⟨front, back, he, hf, hb⟩ := Text.exists_trim p piece
  have hf : ∀ c ∈ front, isPlain brackets (some separator) c = true := fun c hc => hp c (hf c hc)
  have hb : ∀ c ∈ back, isPlain brackets (some separator) c = true := fun c hc => hp c (hb c hc)
  have hs : (nesting.behind brackets (Text.trim p piece)).IsProper := hn.behind _
  have hbehind : nesting.behind brackets piece = nesting.behind brackets (Text.trim p piece) := by
    rw [congrArg (nesting.behind brackets) he, behind_plain_append hn hf, behind_append,
      behind_plain hs hb]
  rw [he, isWhole_plain_append_iff hn hf, isWhole_append_iff] at h
  exact ⟨h.1, hbehind.symm⟩

theorem Cuts.map {f : Text → Text} (h : Cuts brackets separator nesting pieces)
    (hn : IsProper nesting) (hf : Unnoticed brackets separator f) :
    Cuts brackets separator nesting (pieces.map f) := by
  induction h with
  | last h => exact .last (hf _ _ hn h).1
  | more h ht hr ih =>
    obtain ⟨hw, hb⟩ := hf _ _ hn h
    exact .more hw (hb.trans ht) (ih isProper_top)

theorem Cuts.replace {other : Text} (h : Cuts brackets separator top (front ++ piece :: back))
    (hs : top.separates brackets separator separator = true)
    (ho : IsWhole brackets separator top other) (ht : top.behind brackets other = top) :
    top.behind brackets (front.flatMap (· ++ [separator])) = top ∧
      Cuts brackets separator top (front ++ other :: back) := by
  induction front with
  | nil =>
    refine ⟨rfl, ?_⟩
    cases h with
    | last => exact .last ho
    | more _ _ hr => exact .more ho ht hr
  | cons first front ih =>
    obtain ⟨next, rest, hn⟩ := List.exists_cons_of_ne_nil (List.append_ne_nil_of_right_ne_nil front
      (List.cons_ne_nil piece back))
    rw [List.cons_append, hn] at h
    cases h with
    | more h htop hr =>
      obtain ⟨hb, hc⟩ := ih (hn ▸ hr)
      have hsep : top.behind brackets [separator] = top := after_top_separator hs
      refine ⟨?_, .more h htop hc⟩
      rw [List.flatMap_cons, behind_append, behind_append, htop, hsep, hb]

/-- Pieces that are rewritten without a trace for the reader, and joined by the separator with
unnoticed characters behind it, come apart where they were joined. -/
theorem mem_split_join {f : Text → Text} {gap lead : Text} {piece : Text}
    (hc : Cuts brackets separator nesting pieces)
    (hs : top.separates brackets separator separator = true) (hn : IsProper nesting)
    (hf : Unnoticed brackets separator f)
    (hg : ∀ c ∈ gap, isPlain brackets (some separator) c = true)
    (hl : ∀ c ∈ lead, isPlain brackets (some separator) c = true)
    (hm : piece ∈ split brackets separator nesting
      (lead ++ Text.join (separator :: gap) (pieces.map f))) :
    ∃ front, ∃ original ∈ pieces, piece = front ++ f original := by
  have hlead {nesting : Nesting} {original lead : Text} (hn : IsProper nesting)
      (hl : ∀ c ∈ lead, isPlain brackets (some separator) c = true)
      (h : IsWhole brackets separator nesting original) :
      IsWhole brackets separator nesting (lead ++ f original) ∧
        nesting.behind brackets (lead ++ f original) = nesting.behind brackets original := by
    rw [isWhole_plain_append_iff hn hl, behind_plain_append hn hl]
    exact hf nesting original hn h
  induction hc generalizing lead with
  | last h =>
    rw [List.map_singleton, Text.join_singleton, split_of_isWhole (hlead hn hl h).1,
      List.mem_singleton] at hm
    exact ⟨lead, _, List.mem_singleton_self _, hm⟩
  | @more nesting original pieces h ht hr ih =>
    have hne : pieces.map f ≠ [] := by
      cases hr <;> simp
    rw [List.map_cons, Text.join_cons _ _ hne, ← List.append_assoc, ← List.append_assoc,
      List.append_assoc, List.cons_append,
      split_append_cons_of_isWhole (hlead hn hl h).1 ((hlead hn hl h).2.trans ht) hs] at hm
    rcases List.mem_cons.mp hm with rfl | hm
    · exact ⟨lead, original, List.mem_cons_self, rfl⟩
    · obtain ⟨front, other, ho, rfl⟩ := ih isProper_top hg hm
      exact ⟨front, other, List.mem_cons_of_mem _ ho, rfl⟩

end Retheme.Nesting
