import Retheme.Proofs.Flat.Scan
import Retheme.Proofs.Override.Grouping

/-!
# What a theme publishes for a flat sheet

Scoped selectors tell selectors apart, so overrides are grouped by the selectors
their markers stand under. The style block is then what the sheet and the theme
ask for.
-/

namespace Retheme.Flat

variable {theme : Theme} {markers : List Resolved}

-- ---------------------------------------------------------------------------
-- Scoped selectors
-- ---------------------------------------------------------------------------

theorem append_comma_inj {a b x y : Text} (ha : ',' ∉ a) (hb : ',' ∉ b)
    (h : a ++ ',' :: x = b ++ ',' :: y) : a = b ∧ x = y := by
  have hx := Text.cut?_of_not_mem ha [] x
  have hy := Text.cut?_of_not_mem hb [] y
  simp only [List.append_assoc, List.singleton_append] at hx hy
  rw [h, hy] at hx
  simpa [eq_comm] using hx

theorem underClass_singleton (theme : Theme) (selector : Text) :
    underClass theme [selector] = '.' :: theme.name ++ ' ' :: selector := rfl

theorem underClass_cons (theme : Theme) (selector : Text) {selectors : List Text}
    (hn : selectors ≠ []) :
    underClass theme (selector :: selectors) =
      '.' :: theme.name ++ ' ' :: (selector ++ ',' :: ' ' :: underClass theme selectors) := by
  rw [underClass, List.map_cons, Text.join_cons _ _ (by simpa using hn), underClass]
  simp

theorem underClass_inj (theme : Theme) {first second : List Text} (hfn : first ≠ [])
    (hsn : second ≠ []) (hf : ∀ selector ∈ first, ',' ∉ selector)
    (hs : ∀ selector ∈ second, ',' ∉ selector)
    (h : underClass theme first = underClass theme second) : first = second := by
  induction first generalizing second with
  | nil => exact absurd rfl hfn
  | cons a first ih =>
    cases second with
    | nil => exact absurd rfl hsn
    | cons b second =>
      have ha := hf a List.mem_cons_self
      have hb := hs b List.mem_cons_self
      cases first with
      | nil =>
        cases second with
        | nil => simpa [underClass_singleton] using h
        | cons c second =>
          rw [underClass_singleton, underClass_cons theme b (by simp)] at h
          have he := (List.cons.inj (List.append_cancel_left h)).2
          exact absurd (he ▸ by simp) ha
      | cons c first =>
        rw [underClass_cons theme a (by simp)] at h
        cases second with
        | nil =>
          rw [underClass_singleton] at h
          have he := (List.cons.inj (List.append_cancel_left h)).2
          exact absurd (he ▸ by simp) hb
        | cons d second =>
          rw [underClass_cons theme b (by simp)] at h
          have he := (List.cons.inj (List.append_cancel_left h)).2
          obtain ⟨rfl, hr⟩ := append_comma_inj ha hb he
          rw [ih (by simp) (by simp) (fun s hm => hf s (List.mem_cons_of_mem _ hm))
            (fun s hm => hs s (List.mem_cons_of_mem _ hm)) (List.cons.inj hr).2]

def AreListed (markers : List Resolved) : Prop :=
  ∀ marker ∈ markers, marker.selectors ≠ [] ∧ ∀ selector ∈ marker.selectors, ',' ∉ selector

theorem AreListed.inj (h : AreListed markers) {first second : List Text}
    (hf : first ∈ markers.map Resolved.selectors) (hs : second ∈ markers.map Resolved.selectors)
    (he : underClass theme first = underClass theme second) : first = second := by
  obtain ⟨marker, hm, rfl⟩ := List.mem_map.mp hf
  obtain ⟨other, ho, rfl⟩ := List.mem_map.mp hs
  exact underClass_inj theme (h marker hm).1 (h other ho).1 (h marker hm).2 (h other ho).2 he

theorem areListed_resolved (theme : Theme) (rules : List Rule) : AreListed (resolved theme rules) := by
  intro marker hm
  obtain ⟨rule, -, hm⟩ := List.mem_flatMap.mp hm
  obtain ⟨declaration, -, hd⟩ := List.mem_filterMap.mp hm
  have hs : marker.selectors = rule.selectors := by
    rw [Declaration.resolved?] at hd
    obtain ⟨path, -, hp⟩ := Option.bind_eq_some_iff.mp hd
    obtain ⟨leaf, -, rfl⟩ := Option.map_eq_some_iff.mp hp
    rfl
  rw [hs]
  refine ⟨rule.selectors_ne_nil, ?_⟩
  intro selector hs
  obtain ⟨parts, -, rfl⟩ := List.mem_map.mp hs
  exact parts.not_mem_marks (by decide) (by decide)

-- ---------------------------------------------------------------------------
-- Groups
-- ---------------------------------------------------------------------------

theorem declaration_override (marker : Resolved) :
    (marker.override theme).declaration = marker.declaration := by
  cases hi : marker.important <;>
    simp [Override.declaration, Resolved.override, Resolved.declaration, flag, hi]

theorem firsts_override (theme : Theme) (markers : List Resolved) :
    OverrideStore.firsts (markers.map (Resolved.override theme)) =
      ((markers.map Resolved.prop).eraseDups.filterMap fun prop =>
        markers.find? fun marker => marker.prop = prop).map (Resolved.override theme) := by
  have hp : (markers.map (Resolved.override theme)).map Override.prop =
      markers.map Resolved.prop := by
    rw [List.map_map]
    rfl
  rw [OverrideStore.firsts, hp, List.map_filterMap]
  refine List.filterMap_congr fun prop _ => ?_
  rw [List.find?_map]
  rfl

/-- The overrides of a scoped rule come from the markers under its selectors. -/
theorem filter_override (h : AreListed markers) {selectors : List Text}
    (hs : selectors ∈ markers.map Resolved.selectors) :
    (markers.map (Resolved.override theme)).filter
      (fun override => override.rule = underClass theme selectors) =
        (markers.filter fun marker => marker.selectors = selectors).map (Resolved.override theme) := by
  rw [List.filter_map]
  congr 1
  refine List.filter_congr fun marker hm => ?_
  have hi : underClass theme marker.selectors = underClass theme selectors ↔
      marker.selectors = selectors :=
    ⟨h.inj (List.mem_map_of_mem hm) hs, fun he => by rw [he]⟩
  exact decide_eq_decide.mpr hi

theorem render_grouped (h : AreListed markers) (fonts : Entries Text) :
    OverrideStore.render fonts (.grouped (markers.map (Resolved.override theme))) =
      rulesText theme markers ++ fontsText fonts := by
  have hr : (markers.map (Resolved.override theme)).map Override.rule =
      (markers.map Resolved.selectors).map (underClass theme) := by
    rw [List.map_map, List.map_map]
    rfl
  have hd : ((markers.map Resolved.selectors).map (underClass theme)).eraseDups =
      (markers.map Resolved.selectors).eraseDups.map (underClass theme) :=
    eraseDups_map fun first hf second hs he => h.inj hf hs he
  have hrule : ∀ selectors ∈ (markers.map Resolved.selectors).eraseDups,
      OverrideStore.renderRule (underClass theme selectors)
        ((markers.map (Resolved.override theme)).filter
          fun override => override.rule = underClass theme selectors) =
      ruleText theme markers selectors ++
        List.replicate ((underClass theme selectors).count '{' -
          (underClass theme selectors).count '}') '}' ++ ['\n'] := by
    intro selectors hs
    have hdecl : Override.declaration ∘ Resolved.override theme = Resolved.declaration :=
      funext declaration_override
    rw [filter_override h (List.mem_eraseDups.mp hs), OverrideStore.renderRule,
      OverrideStore.firstOfProps_nil, firsts_override, List.map_map, hdecl, ruleText, firstsUnder]
  rw [OverrideStore.render, OverrideStore.grouped, hr, hd, List.map_map, List.flatMap_map, rulesText,
    ← List.flatMap_congr hrule]
  rfl

-- ---------------------------------------------------------------------------
-- The style block
-- ---------------------------------------------------------------------------

/-- A theme whose leaves are texts publishes the rules that a flat sheet and it ask for, and its
fonts; when no marker leads to a text there is nothing to publish. -/
theorem addTheme_published (ns href : Text) (reports : List Event) (theme : Theme)
    (rules : List Rule) (h : HasTextLeaves theme rules) :
    (Step.run (Processor.addTheme [⟨href, reports, .ok (text rules)⟩] theme)
      (Processor.initial ns [])).1 =
        if (resolved theme rules).isEmpty then .ok none
        else (Processor.fontTexts (theme.fonts.getD [])).map fun fonts =>
          some (rulesText theme (resolved theme rules) ++ fontsText fonts) := by
  have hg := gives_rules rules .nil h (List.nil_append (text rules)).symm
  rw [Processor.run_addTheme hg ns href reports, reduceOption_rules, List.isEmpty_map]
  simp only [render_grouped (areListed_resolved theme rules)]

-- ---------------------------------------------------------------------------
-- Samples
-- ---------------------------------------------------------------------------

/-- A declaration `p: v;` marked by a path in the namespace `demo`. -/
def sampleDeclaration (key : Expression.Name) (important : Bool)
    (h : (": ".toList ++ ['v'] ++ flag important ++ [';']).length ≤ Sheet.importantReach) :
    Declaration where
  path := some ⟨⟨"demo".toList, by decide +kernel⟩, key, []⟩
  prop := ⟨['p'], by decide, by decide +kernel⟩
  value := ['v']
  important := important
  value_chars := by decide +kernel
  fits := h

def sampleKey : Expression.Name := ⟨['c'], by decide, by decide +kernel⟩

def otherKey : Expression.Name := ⟨['d'], by decide, by decide +kernel⟩

def sampleSelector : Selector := ⟨⟨['a'], by decide, by decide +kernel⟩, []⟩

def sampleRule (declarations : List Declaration) : Rule where
  gap := ['\n']
  first := sampleSelector
  more := [⟨⟨['b'], by decide, by decide +kernel⟩, [⟨['>'], by decide, by decide +kernel⟩,
    ⟨['c'], by decide, by decide +kernel⟩]⟩]
  declarations := declarations
  gap_blank := by decide

def sampleTheme (name : Text) (fonts : Entries Value) : Theme :=
  .make "demo".toList name [(['c'], .text "red".toList)] (some fonts)

/-- Three markers under the same selectors: one that leads nowhere, one that is important, and one
for the same property. -/
def sampleSheet : List Rule :=
  [sampleRule [sampleDeclaration otherKey false (by decide)],
    sampleRule [sampleDeclaration sampleKey true (by decide),
      sampleDeclaration sampleKey false (by decide)]]

theorem hasTextLeaves_sample (name : Text) (fonts : Entries Value) :
    HasTextLeaves (sampleTheme name fonts) sampleSheet := by
  intro rule hr declaration hd path hp
  simp only [sampleSheet, List.mem_cons, List.not_mem_nil, or_false] at hr
  rcases hr with rfl | rfl
  · obtain rfl := List.mem_singleton.mp hd
    cases hp
    exact .inl rfl
  · simp only [sampleRule, List.mem_cons, List.not_mem_nil, or_false] at hd
    rcases hd with rfl | rfl
    · cases hp
      exact .inr ⟨_, rfl⟩
    · cases hp
      exact .inr ⟨_, rfl⟩

theorem addTheme_published_sample :
    HasTextLeaves (sampleTheme "dark" []) sampleSheet ∧
      (Step.run (Processor.addTheme [⟨"a.css", [], .ok (text sampleSheet)⟩] (sampleTheme "dark" []))
        (Processor.initial "demo" [])).1 =
          .ok (some ".dark a, .dark b > c \x7b p: red !important; \x7d\n".toList) := by
  refine ⟨hasTextLeaves_sample _ _, ?_⟩
  rw [addTheme_published _ _ _ _ _ (hasTextLeaves_sample _ _)]
  decide +kernel

def linesText (theme : Theme) (markers : List Resolved) : Text :=
  (markers.map Resolved.selectors).eraseDups.flatMap fun selectors =>
    ruleText theme markers selectors ++ ['\n']

/-- The rules are not all that is published: fonts follow them, and braces that the name of the
theme leaves open are closed. -/
theorem addTheme_not_lines :
    ¬ (∀ (theme : Theme) (rules : List Rule), theme.fonts = none → HasTextLeaves theme rules →
      (Step.run (Processor.addTheme [⟨"a.css", [], .ok (text rules)⟩] theme)
        (Processor.initial "demo" [])).1 =
          if (resolved theme rules).isEmpty then .ok none
          else .ok (some (linesText theme (resolved theme rules)))) ∧
    ¬ (∀ (theme : Theme) (rules : List Rule), '{' ∉ theme.name → HasTextLeaves theme rules →
      (Step.run (Processor.addTheme [⟨"a.css", [], .ok (text rules)⟩] theme)
        (Processor.initial "demo" [])).1 =
          if (resolved theme rules).isEmpty then .ok none
          else .ok (some (linesText theme (resolved theme rules)))) := by
  constructor
  · intro h
    have hs := h (sampleTheme "a\x7b" []) sampleSheet rfl (hasTextLeaves_sample _ _)
    exact absurd hs (by decide +kernel)
  · intro h
    have hs := h (sampleTheme "dark" [("F".toList, .text "f.woff".toList)]) sampleSheet
      (by decide) (hasTextLeaves_sample _ _)
    exact absurd hs (by decide +kernel)

end Retheme.Flat
