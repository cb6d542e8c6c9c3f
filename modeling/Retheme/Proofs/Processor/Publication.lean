import Retheme.Proofs.Override.Growth
import Retheme.Proofs.Processor.Independence
import Retheme.Proofs.Processor.Keeping

/-!
# Style blocks that follow each other

Every style block that a processor publishes is written from all overrides it
has, and takes the place of the one before. Since overrides are only recorded,
what stands in a block stands in all later ones (`published_stable`). The fonts
come from the theme that was added last, and go with it (`published_fonts`).
-/

namespace Retheme.Processor

open OverrideStore (rows pairs Line fontText unclosed unopened recordAll)

variable {processor : Processor} {addition : Addition} {additions : List Addition} {block : Text}
  {records : List Override}

structure Publication where
  store : OverrideStore
  theme : Theme
  block : Text

def publications (processor : Processor) : List Addition → List Publication
  | [] => []
  | addition :: rest =>
    ((processor.block? addition).map fun block =>
      ⟨(processor.add addition).overrides, addition.theme, block⟩).toList ++
        publications (processor.add addition) rest

/-- A block consists of the lines of the overrides, and of one font face for each font of the theme
that was added. -/
def Publication.IsWritten (publication : Publication) : Prop :=
  ∃ fonts, fontTexts (publication.theme.fonts.getD []) = .ok fonts ∧
    publication.block =
      (rows publication.store).flatMap (Line.text fun rule => unclosed 0 rule - unopened 0 rule) ++
        fonts.flatMap fun (family, source) => fontText family source

theorem exists_of_mem_publications {publication : Publication}
    (h : publication ∈ processor.publications additions) :
    ∃ front addition back, additions = front ++ addition :: back ∧
      (processor.addAll front).block? addition = some publication.block ∧
      publication.theme = addition.theme ∧
      publication.store = ((processor.addAll front).add addition).overrides := by
  induction additions generalizing processor with
  | nil => cases h
  | cons addition additions ih =>
    rw [publications] at h
    rcases List.mem_append.mp h with h | h
    · rw [Option.mem_toList, Option.map_eq_some_iff] at h
      obtain ⟨block, hb, rfl⟩ := h
      exact ⟨[], addition, additions, rfl, hb, rfl, rfl⟩
    · obtain ⟨front, other, back, rfl, hb, ht, hs⟩ := ih h
      exact ⟨addition :: front, other, back, rfl, hb, ht, hs⟩

-- ---------------------------------------------------------------------------
-- Overrides are only recorded
-- ---------------------------------------------------------------------------

theorem kept_recorded (store : OverrideStore) :
    Kept fun processor => ∃ more, processor.overrides = recordAll store more where
  work _ _ h := h
  record := by
    rintro processor override ⟨more, h⟩
    refine ⟨more ++ [override], ?_⟩
    rw [OverrideStore.recordAll_append, recorded, h]
    rfl
  scanned _ _ h := h

theorem exists_overrides_addAll (processor : Processor) (additions : List Addition) :
    ∃ more, (processor.addAll additions).overrides = recordAll processor.overrides more :=
  (kept_recorded processor.overrides).addAll ⟨[], rfl⟩ additions

-- ---------------------------------------------------------------------------
-- Themes that were scanned
-- ---------------------------------------------------------------------------

theorem kept_hasScanned (name : Text) : Kept fun processor => processor.hasScanned name = true where
  work _ _ h := h
  record _ _ h := h
  scanned processor other h := by
    simp only [hasScanned, List.contains_eq_mem, List.mem_append, decide_eq_true_eq] at h ⊢
    exact .inl h

theorem hasScanned_add
    (h : (Step.run (addTheme addition.sheets addition.theme) processor).1.isOk = true) :
    (processor.add addition).hasScanned addition.theme.name = true := by
  rw [outcome_eq] at h
  rw [add_eq]
  rw [scanOnce] at h ⊢
  simp only [Step.run_bind, Step.run_read, id_eq] at h ⊢
  cases hk : processor.hasScanned addition.theme.name with
  | true => exact hk
  | false =>
    simp only [hk, Bool.false_eq_true, if_false, Step.run_bind] at h ⊢
    cases hs : Step.run (scanSheets addition.theme addition.sheets) processor with
    | mk result after =>
      rw [hs] at h
      cases result with
      | error => cases h
      | ok recorded =>
        show (after.scanned ++ [addition.theme.name]).contains addition.theme.name = true
        simp

theorem hasScanned_addAll {name : Text}
    (hok : ∀ outcome ∈ processor.outcomes additions, outcome.isOk = true)
    (hn : name ∈ additions.map (·.theme.name)) :
    (processor.addAll additions).hasScanned name = true := by
  induction additions generalizing processor with
  | nil => cases hn
  | cons addition additions ih =>
    rcases List.mem_cons.mp hn with rfl | hn
    · exact (kept_hasScanned _).addAll (hasScanned_add (hok _ List.mem_cons_self)) additions
    · exact ih (fun outcome ho => hok outcome (List.mem_cons_of_mem _ ho)) hn

theorem run_addTheme_scanned (h : processor.hasScanned addition.theme.name = true) :
    ∃ log, Step.run (addTheme addition.sheets addition.theme) processor =
      (processor.published addition.theme, processor.logged log) := by
  rw [addTheme_eq, scanOnce]
  simp only [Step.run_bind, Step.run_read, id_eq, h, if_true, run_event]
  exact ⟨_, run_publish addition.theme _⟩

-- ---------------------------------------------------------------------------
-- Blocks that follow each other
-- ---------------------------------------------------------------------------

theorem pairwise_continues (processor : Processor) (additions : List Addition) :
    (processor.publications additions).Pairwise fun earlier later =>
      OverrideStore.Continues (rows earlier.store) (rows later.store) := by
  induction additions generalizing processor with
  | nil => exact .nil
  | cons addition additions ih =>
    rw [publications, List.pairwise_append]
    refine ⟨?_, ih (processor.add addition), ?_⟩
    · cases processor.block? addition <;> simp
    · intro earlier he later hl
      rw [Option.mem_toList, Option.map_eq_some_iff] at he
      obtain ⟨block, -, rfl⟩ := he
      obtain ⟨front, last, -, -, -, -, hs⟩ := exists_of_mem_publications hl
      obtain ⟨more, hm⟩ := exists_overrides_addAll (processor.add addition) (front ++ [last])
      rw [addAll, List.foldl_append] at hm
      rw [hs]
      exact hm ▸ OverrideStore.continues_recordAll _ more

theorem isWritten_of_mem {publication : Publication}
    (h : publication ∈ processor.publications additions) :
    publication.IsWritten ∧ publication.store ≠ [] := by
  obtain ⟨front, addition, back, -, hb, ht, hs⟩ := exists_of_mem_publications h
  obtain ⟨hne, fonts, hf, he⟩ := published_eq_some_iff.mp (published_of_block? hb)
  rw [Publication.IsWritten, ht, hs, he]
  exact ⟨⟨fonts, hf, OverrideStore.render_eq fonts _⟩, hne⟩

theorem nodup_pairs_of_mem (hstore : processor.overrides = .grouped records)
    {publication : Publication} (h : publication ∈ processor.publications additions) :
    (pairs (rows publication.store)).Nodup := by
  obtain ⟨front, addition, -, -, -, -, hs⟩ := exists_of_mem_publications h
  obtain ⟨more, hm⟩ := exists_overrides_addAll processor (front ++ [addition])
  rw [addAll, List.foldl_append] at hm
  have hgrouped : publication.store = .grouped (records ++ more) := by
    rw [← OverrideStore.recordAll_grouped, ← hstore, hs]
    exact hm
  rw [hgrouped]
  exact OverrideStore.nodup_pairs_grouped _

/-- Published declarations are stable, whatever themes are added. Every line of a published block
stands at the same place in all later ones, with the same declarations in the same order, behind
which there may be more; no rule has two declarations of a property. A block is published only with
overrides. Adding a theme again records nothing and publishes what there is, with its fonts. -/
theorem published_stable (hstore : processor.overrides = .grouped records)
    (hok : ∀ outcome ∈ processor.outcomes additions, outcome.isOk = true) :
    ((processor.publications additions).Pairwise fun earlier later =>
        OverrideStore.Continues (rows earlier.store) (rows later.store)) ∧
      (∀ publication ∈ processor.publications additions, publication.IsWritten ∧
        publication.store ≠ [] ∧ (pairs (rows publication.store)).Nodup) ∧
      ∀ again : Addition, again.theme.name ∈ additions.map (·.theme.name) →
        let before := processor.addAll additions
        ∃ log, Step.run (addTheme again.sheets again.theme) before =
          (before.published again.theme, before.logged log) := by
  refine ⟨pairwise_continues processor additions, fun publication h => ?_, fun again hn => ?_⟩
  · obtain ⟨hw, hne⟩ := isWritten_of_mem h
    exact ⟨hw, hne, nodup_pairs_of_mem hstore h⟩
  · exact run_addTheme_scanned (hasScanned_addAll hok hn)

def brandedTheme : Theme := { redTheme with fonts := some [("Brand".toList, .text "brand.woff2")] }

def branded : Addition := ⟨colorSheets, brandedTheme⟩

def plain : Addition := ⟨colorSheets, whiteTheme⟩

def brandedBlock : Text :=
  ".dark .a \x7b color: red; \x7d\n@font-face \x7b font-family: Brand; src: url('brand.woff2'); \x7d\n"

def plainBlock : Text := ".dark .a \x7b color: red; \x7d\n.light .a \x7b color: white; \x7d\n"

theorem run_addTheme_color {theme : Theme} {value : Text}
    (hr : theme.resolve? ["demo".toList, "fg".toList] = some (.text value)) {scanned : List Text}
    (hn : theme.name ∉ scanned) (records : List Override) (log : List Event) :
    ∃ log', Step.run (addTheme colorSheets theme) ((initial "demo" []).onward scanned records log) =
      let added := (initial "demo" []).onward (scanned ++ [theme.name])
        (records ++ [⟨Scope.standard ".a" theme.name, "color", value, "fg", false⟩]) log'
      (added.published theme, added) := by
  have hs : ∀ sheet ∈ colorSheets, ∀ marker ∈ Sheet.markers sheet.scanned,
      (initial "demo" []).IsSafe sheet.scanned theme marker := by
    intro sheet hsheet
    obtain rfl := List.mem_singleton.mp hsheet
    exact isSafe_colorSheet hr
  rw [← gathered_colorSheets hr]
  exact run_addTheme_onward Registry.initial_isOwn rfl hs hn records log

theorem outcomes_colors :
    (initial "demo" []).outcomes [branded, plain] =
      [.ok (some brandedBlock), .ok (some plainBlock)] := by
  let dark : Override := ⟨Scope.standard ".a" "dark", "color", "red", "fg", false⟩
  let light : Override := ⟨Scope.standard ".a" "light", "color", "white", "fg", false⟩
  have hbranded (log : List Event) :
      ((initial "demo" []).onward ["dark"] [dark] log).published brandedTheme =
        .ok (some brandedBlock) := by
    show ((initial "demo" []).onward ["dark"] [dark] []).published brandedTheme = _
    decide +kernel
  have hplain (log : List Event) :
      ((initial "demo" []).onward ["dark", "light"] [dark, light] log).published whiteTheme =
        .ok (some plainBlock) := by
    show ((initial "demo" []).onward ["dark", "light"] [dark, light] []).published whiteTheme = _
    decide +kernel
  obtain ⟨log, hfirst⟩ := @run_addTheme_color brandedTheme "red" rfl [] List.not_mem_nil [] []
  obtain ⟨last, hsecond⟩ := @run_addTheme_color whiteTheme "white" rfl ["dark"] (by decide) [dark] log
  have hadd : (initial "demo" []).add branded = (initial "demo" []).onward ["dark"] [dark] log :=
    congrArg Prod.snd hfirst
  rw [outcomes, outcomes, outcomes, hadd]
  exact congrArg₂ List.cons ((congrArg Prod.fst hfirst).trans (hbranded log))
    (congrArg (List.cons · []) ((congrArg Prod.fst hsecond).trans (hplain last)))

theorem isOk_colors :
    ∀ outcome ∈ (initial "demo" []).outcomes [branded, plain], outcome.isOk = true := by
  rw [outcomes_colors]
  intro outcome ho
  rcases List.mem_cons.mp ho with rfl | ho
  · rfl
  · cases List.mem_singleton.mp ho
    rfl

theorem published_stable_colors :
    (initial "demo" []).overrides = .grouped [] ∧
      (∀ outcome ∈ (initial "demo" []).outcomes [branded, plain], outcome.isOk = true) ∧
      (((initial "demo" []).publications [branded, plain]).Pairwise fun earlier later =>
        OverrideStore.Continues (rows earlier.store) (rows later.store)) ∧
      let before := (initial "demo" []).addAll [branded, plain]
      ∃ log, Step.run (addTheme [] redTheme) before =
        (before.published redTheme, before.logged log) := by
  obtain ⟨hstable, -, hagain⟩ := @published_stable (initial "demo" []) _ [] rfl isOk_colors
  exact ⟨rfl, isOk_colors, hstable, hagain ⟨[], redTheme⟩ List.mem_cons_self⟩

-- ---------------------------------------------------------------------------
-- Fonts
-- ---------------------------------------------------------------------------

theorem kept_overrides_ne_nil : Kept fun processor => processor.overrides ≠ [] where
  work _ _ h := h
  record processor override _ := OverrideStore.record_ne_nil override processor.overrides
  scanned _ _ h := h

theorem exists_block?
    (hok : (Step.run (addTheme addition.sheets addition.theme) processor).1.isOk = true)
    (hne : (processor.add addition).overrides ≠ []) :
    ∃ block, processor.block? addition = some block := by
  rw [block?, outcome_eq]
  rw [outcome_eq] at hok
  cases hs : (Step.run (scanOnce addition.sheets addition.theme) processor).1 with
  | error =>
    rw [hs] at hok
    cases hok
  | ok =>
    rw [hs] at hok
    dsimp only at hok ⊢
    rw [published, if_neg (by simpa using hne)] at hok ⊢
    cases hb : (processor.add addition).synthesize (some addition.theme) with
    | error =>
      rw [hb] at hok
      cases hok
    | ok block => exact ⟨block, rfl⟩

/-- Once there is an override, every theme that is added without a failure is published. -/
theorem map_theme_publications
    (hne : ∀ first ∈ additions.head?, (processor.add first).overrides ≠ [])
    (hok : ∀ outcome ∈ processor.outcomes additions, outcome.isOk = true) :
    (processor.publications additions).map Publication.theme =
      additions.map Addition.theme := by
  induction additions generalizing processor with
  | nil => rfl
  | cons addition additions ih =>
    have hadded := hne addition rfl
    obtain ⟨block, hb⟩ := exists_block? (hok _ List.mem_cons_self) hadded
    rw [publications, hb, List.map_append, List.map_cons,
      ih (fun next _ => kept_overrides_ne_nil.add hadded next)
        fun outcome ho => hok outcome (List.mem_cons_of_mem _ ho)]
    rfl

/-- Declarations accumulate, and fonts do not. A block holds the lines of all overrides so far, each
where it stood before, and then one font face for each font of the theme that was just added, in
order, and none for the fonts of other themes. When the first theme gives an override and none of
them fails, every theme that is added is published. -/
theorem published_fonts (processor : Processor) (additions : List Addition) :
    ((∀ first ∈ additions.head?, (processor.add first).overrides ≠ []) →
        (∀ outcome ∈ processor.outcomes additions, outcome.isOk = true) →
          (processor.publications additions).map Publication.theme =
            additions.map Addition.theme) ∧
      ((processor.publications additions).Pairwise fun earlier later =>
        OverrideStore.Continues (rows earlier.store) (rows later.store)) ∧
      ∀ publication ∈ processor.publications additions, publication.IsWritten :=
  ⟨map_theme_publications, pairwise_continues processor additions,
    fun _ h => (isWritten_of_mem h).1⟩

theorem published_fonts_colors :
    (∀ first ∈ [branded, plain].head?, ((initial "demo" []).add first).overrides ≠ []) ∧
      (∀ outcome ∈ (initial "demo" []).outcomes [branded, plain], outcome.isOk = true) ∧
      ((initial "demo" []).publications [branded, plain]).map Publication.theme =
        [brandedTheme, whiteTheme] ∧
      ∀ publication ∈ (initial "demo" []).publications [branded, plain], publication.IsWritten := by
  have hfirst : (initial "demo" []).block? branded = some brandedBlock := by
    rw [block?, (List.cons.inj outcomes_colors).1]
  have hne : ∀ first ∈ [branded, plain].head?, ((initial "demo" []).add first).overrides ≠ [] := by
    rintro _ ⟨⟩
    exact (published_eq_some_iff.mp (published_of_block? hfirst)).1
  obtain ⟨hthemes, -, hwritten⟩ := published_fonts (initial "demo" []) [branded, plain]
  exact ⟨hne, isOk_colors, hthemes hne isOk_colors, hwritten⟩

/-- The font face of the first theme is published with it, and is gone when the second one is
added. -/
theorem fonts_not_accumulated :
    (initial "demo" []).outcomes [branded, plain] =
        [.ok (some brandedBlock), .ok (some plainBlock)] ∧
      fontText "Brand" "brand.woff2" <:+: brandedBlock ∧
      ¬ fontText "Brand" "brand.woff2" <:+: plainBlock :=
  ⟨outcomes_colors, by decide +kernel, by decide +kernel⟩

end Retheme.Processor
