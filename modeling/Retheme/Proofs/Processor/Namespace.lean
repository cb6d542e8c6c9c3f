import Retheme.Proofs.Processor.Relevance

/-!
# Whose namespace counts

A path leads to a value when it begins with the namespace of the theme. The
namespace that a processor answers is not asked for: under any other one it
records the same overrides, so that a theme of another namespace than its own
leaves overrides in its block.
-/

namespace Retheme

variable {theme : Theme} {segments : List Text}

-- ---------------------------------------------------------------------------
-- Paths and namespaces
-- ---------------------------------------------------------------------------

theorem Theme.resolve?_eq_none (h : segments.head? ≠ some theme.ns) :
    theme.resolve? segments = none := by
  cases segments with
  | nil => rfl
  | cons first names =>
    rw [resolve?]
    exact if_neg fun he => h (congrArg some he)

theorem Theme.exists_walk_eq {names : List Text} (hn : names ≠ []) (value : Value) :
    ∃ data, walk (.map data) names = some value := by
  induction names with
  | nil => exact absurd rfl hn
  | cons name names ih =>
    cases names with
    | nil => exact ⟨[(name, value)], by simp [walk, Entries.get?]⟩
    | cons next rest =>
      obtain ⟨data, hd⟩ := ih (List.cons_ne_nil _ _)
      exact ⟨[(name, .map data)], by simpa [walk, Entries.get?] using hd⟩

theorem Theme.exists_text_iff :
    (∃ data text, (({ theme with data }.resolve? segments).getD .null).declared? =
        .ok (some text)) ↔
      segments.head? = some theme.ns ∧ segments.tail ≠ [] := by
  constructor
  · rintro ⟨data, text, h⟩
    have hh : segments.head? = some theme.ns := by
      by_contra hn
      rw [@Theme.resolve?_eq_none { theme with data } segments hn] at h
      cases h
    refine ⟨hh, fun ht => ?_⟩
    -- The namespace alone leads to all data, which have no text.
    obtain rfl : segments = [theme.ns] := by
      cases segments with
      | nil => cases hh
      | cons first names =>
        cases hh
        exact congrArg _ ht
    simp [resolve?, walk, Value.declared?] at h
  · rintro ⟨hh, ht⟩
    cases segments with
    | nil => cases hh
    | cons first names =>
      cases hh
      obtain ⟨data, hd : walk (.map data) names = _⟩ := Theme.exists_walk_eq ht (.text [])
      refine ⟨data, [], ?_⟩
      simp only [resolve?, if_true, hd]
      rfl

namespace Processor

open Step (Agree)
open Theme (AgreeOn)

variable {processor : Processor} {source text : Text} {marker : Sheet.Marker} {sheets : List Sheet}

theorem led_path (hp : Expression.parse marker.expression = .ok (.path segments text)) :
    processor.led (siteOf source theme marker) =
      ((theme.resolve? segments).getD .null, processor) := by
  rw [led, siteOf, Expression.led_path hp]

/-- The marker of a path is recorded when the path leads to a text and the marker stands in front of
a declaration. -/
theorem scanMarker_path_iff (hp : Expression.parse marker.expression = .ok (.path segments text)) :
    (Step.run (scanMarker source theme marker) processor).1 = .ok true ↔
      (∃ value, ((theme.resolve? segments).getD .null).declared? = .ok (some value)) ∧
        (Sheet.contextAt source marker.start).isValid = true := by
  rw [run_scanMarker_eq, led_path hp]
  dsimp only
  cases ((theme.resolve? segments).getD .null).declared? with
  | error => simp
  | ok result =>
    cases result with
    | none => simp
    | some value =>
      cases (Sheet.contextAt source marker.start).isValid with
      | false => simp
      | true =>
        obtain ⟨changed, log, hrun, -⟩ := exists_run_keep theme
          (processor.overrideOf source theme marker value) processor
        simp [hrun]

-- ---------------------------------------------------------------------------
-- The namespace of the processor
-- ---------------------------------------------------------------------------

def Renamed (processor other : Processor) : Prop :=
  ∃ ns log, other = { processor.logged log with ns }

theorem indifferent_renamed : Indifferent Renamed where
  hooks := by
    rintro processor _ ⟨ns, log, rfl⟩
    rfl
  scopes := by
    rintro processor _ ⟨ns, log, rfl⟩
    rfl
  report := by
    rintro processor _ log last ⟨ns, _, rfl⟩
    exact ⟨ns, last, rfl⟩
  record := by
    rintro processor _ override ⟨ns, log, rfl⟩
    exact ⟨ns, log, rfl⟩

theorem agree_evaluate_renamed (expression source : Text) (theme : Theme) (position : Int) :
    Agree Renamed (fun _ => True) (evaluate expression theme source position)
      (evaluate expression theme source position) := by
  rintro processor _ ⟨ns, log, rfl⟩
  obtain ⟨he, ⟨-, last, hl⟩, -⟩ := kept_true.agree_evaluate expression theme source position
    processor (processor.logged log) ⟨trivial, log, rfl⟩
  rw [run_evaluate] at he hl ⊢
  rw [run_evaluate] at he hl
  rw [run_evaluate]
  refine ⟨he, ⟨ns, last, ?_⟩, fun _ _ => trivial⟩
  exact congrArg (fun after : Processor => { after with ns }) hl

theorem overrides_add (processor : Processor) (addition : Addition) :
    (processor.add addition).overrides =
      (processor.settled addition.sheets addition.theme).overrides := by
  obtain ⟨scanned, log, h⟩ := exists_add_eq processor addition
  rw [h]
  rfl

theorem overrides_add_renamed (processor : Processor) (ns : Text) (addition : Addition) :
    ({ processor with ns }.add addition).overrides = (processor.add addition).overrides := by
  have hscan := @agree_scanSheets addition.theme addition.theme addition.sheets Renamed
    (fun sheet _ => indifferent_renamed.agree_fetch sheet) fun sheet _ => agree_scanMarkers
      (List.forall₂_same.mpr fun marker _ => agree_scanMarker indifferent_renamed
        (agree_evaluate_renamed _ _ _ _) rfl rfl)
  obtain ⟨-, ⟨ns', log, hr⟩, -⟩ := hscan processor { processor with ns }
    ⟨ns, processor.work.log, rfl⟩
  have hknown : { processor with ns }.hasScanned addition.theme.name =
      processor.hasScanned addition.theme.name := rfl
  rw [overrides_add, overrides_add, settled, settled, hknown, hr]
  split <;> rfl

/-- Whose namespace counts is the theme's. A processor records the same overrides under any
namespace of its own. The data of a theme play no part in what is recorded when no path that is
mentioned begins with its namespace; and some data give the marker of a path an override exactly
when the path begins with this namespace and goes on, in front of a declaration. -/
theorem theme_namespace_decides (processor : Processor) :
    (∀ ns addition,
      ({ processor with ns }.add addition).overrides = (processor.add addition).overrides) ∧
      (∀ (sheets : List Sheet) (theme : Theme), processor.functions.IsOwn →
        (∀ data, HooksAgree processor.hooks { theme with data } theme) →
        (∀ segments text, MentionedIn sheets (.path segments text) →
          segments.head? ≠ some theme.ns) →
        ∀ data, processor.add ⟨sheets, { theme with data }⟩ = processor.add ⟨sheets, theme⟩) ∧
      ∀ source (theme : Theme) marker segments text,
        Expression.parse marker.expression = .ok (.path segments text) →
        ((∃ data, (Step.run (scanMarker source { theme with data } marker) processor).1 =
            .ok true) ↔
          segments.head? = some theme.ns ∧ segments.tail ≠ [] ∧
            (Sheet.contextAt source marker.start).isValid = true) := by
  refine ⟨overrides_add_renamed processor, fun sheets theme hf hh hs data => ?_, ?_⟩
  · refine add_congr (hh data) (.of_isOwn hf rfl fun segments text hm => ?_)
    have hn := hs segments text hm
    rw [Theme.resolve?_eq_none hn, @Theme.resolve?_eq_none { theme with data } segments hn]
  · intro source theme marker segments text hp
    simp only [scanMarker_path_iff hp, exists_and_right, Theme.exists_text_iff, and_assoc]

def foreignSheet : Text := ".a \x7b /*![other.fg]*/ color: black; \x7d"

def foreignTheme : Theme := ⟨"other", "dark", [("fg".toList, .text "red")], none⟩

theorem markers_foreignSheet : Sheet.markers foreignSheet = [⟨"other.fg".toList, 5, 20⟩] := by
  cbv

theorem parse_foreign : Expression.parse "other.fg" =
    .ok (.path ["other".toList, "fg".toList] "other.fg") := by
  have hc : Expression.callParts? (Text.strip "other.fg") = none := by decide +kernel
  have hs : Text.split '.' (Text.strip "other.fg") = ["other".toList, "fg".toList] := by decide
  rw [Expression.parse_of_callParts?_eq_none hc, hs]
  rfl

theorem theme_namespace_decides_foreign :
    ({ initial "demo" [] with ns := "other" }.add
        ⟨[⟨"a.css", [], .ok foreignSheet⟩], foreignTheme⟩).overrides =
      ((initial "demo" []).add ⟨[⟨"a.css", [], .ok foreignSheet⟩], foreignTheme⟩).overrides ∧
      (initial "demo" []).add ⟨colorSheets, { foreignTheme with data := [] }⟩ =
        (initial "demo" []).add ⟨colorSheets, foreignTheme⟩ ∧
      ∃ data, (Step.run (scanMarker foreignSheet { foreignTheme with data }
        ⟨"other.fg", 5, 20⟩) (initial "demo" [])).1 = .ok true := by
  obtain ⟨hns, hdata, hpath⟩ := theme_namespace_decides (initial "demo" [])
  refine ⟨hns _ _, hdata _ _ Registry.initial_isOwn nofun ?_ [], ?_⟩
  · rintro segments text ⟨sheet, hs, marker, hm, parsed, hp, hn⟩
    obtain rfl := List.mem_singleton.mp hs
    obtain rfl := List.mem_singleton.mp (markers_colorSheet ▸ hm)
    obtain rfl := Except.ok.inj (parse_color.symm.trans hp)
    cases hn
    decide
  · refine (hpath foreignSheet foreignTheme ⟨"other.fg", 5, 20⟩ _ _ parse_foreign).mpr ?_
    exact ⟨rfl, List.cons_ne_nil _ _, by decide +kernel⟩

theorem overrides_add_foreign {theme : Theme} {results : List (Option Override)}
    (h : List.Forall₂ (Gives foreignSheet theme) (Sheet.markers foreignSheet) results) :
    ((initial "demo" []).add ⟨[⟨"app.css", [], .ok foreignSheet⟩], theme⟩).overrides =
      .grouped results.reduceOption := by
  obtain ⟨log, count, hr⟩ := @run_scanSheets _ theme results (initial "demo" []) h ⟨rfl, rfl⟩
    "app.css" []
  have hscanned : (initial "demo" []).hasScanned theme.name = false := by
    simp [hasScanned, initial]
  rw [overrides_add, settled, hscanned, if_neg Bool.false_ne_true, hr, foldl_recorded]
  exact OverrideStore.foldl_record _

/-- A processor for another namespace records an override for the path of the theme, and it is the
data of the theme that this depends on. -/
theorem not_own_namespace :
    let processor := initial "demo" []
    let sheets : List Sheet := [⟨"app.css", [], .ok foreignSheet⟩]
    foreignTheme.ns ≠ processor.ns ∧ '.' ∉ foreignTheme.ns ∧ '.' ∉ processor.ns ∧
      (processor.add ⟨sheets, foreignTheme⟩).overrides =
        [(".dark .a".toList, [⟨".dark .a", "color", "red", "fg", false⟩])] ∧
      (processor.add ⟨sheets, { foreignTheme with data := [] }⟩).overrides = [] := by
  intro processor sheets
  have hc : Sheet.contextAt foreignSheet 5 = ⟨"color", ".a", false⟩ := by decide +kernel
  have hred : List.Forall₂ (Gives foreignSheet foreignTheme) (Sheet.markers foreignSheet)
      [some ⟨".dark .a", "color", "red", "fg", false⟩] := by
    rw [markers_foreignSheet]
    refine .cons ?_ .nil
    have hg := @gives_some foreignSheet "red" foreignTheme ⟨"other.fg", 5, 20⟩
      (run_evaluate_path parse_foreign 5) (by rw [hc]; rfl)
    rw [hc] at hg
    exact hg
  have hnone : List.Forall₂ (Gives foreignSheet { foreignTheme with data := [] })
      (Sheet.markers foreignSheet) [none] := by
    rw [markers_foreignSheet]
    exact .cons (gives_none (run_evaluate_path parse_foreign 5)) .nil
  refine ⟨by decide, by decide, by decide, ?_, ?_⟩
  · exact (overrides_add_foreign hred).trans rfl
  · exact (overrides_add_foreign hnone).trans rfl

end Processor

end Retheme
