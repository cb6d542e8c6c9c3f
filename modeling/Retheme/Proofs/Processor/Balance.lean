import Retheme.Proofs.Processor.Registration
import Retheme.Proofs.Sheet.Braces

/-!
# Balanced style blocks

Style sheets may be malformed in any way. As long as no theme, font, value or
selector of a custom scope has a brace, every rule name in the store closes no
brace, every property has none, and every style block is balanced: behind a rule
just those braces are closed that its name and the block itself open.

Only calls bring braces from elsewhere into a rule name, so the calls that are
made while themes are added are followed through sheets and markers.
-/

namespace Retheme

open Text (IsBare Balanced)

-- ---------------------------------------------------------------------------
-- Style blocks
-- ---------------------------------------------------------------------------

namespace OverrideStore

variable {rule family source : Text} {override : Override} {overrides records : List Override}
  {fonts : Entries Text}

theorem mem_of_mem_firstOfProps {seen : List Text} (h : override ∈ firstOfProps seen overrides) :
    override ∈ overrides := by
  induction overrides generalizing seen with
  | nil => cases h
  | cons first rest ih =>
    rw [firstOfProps] at h
    split at h
    · exact List.mem_cons_of_mem _ (ih h)
    · exact List.mem_cons.mpr ((List.mem_cons.mp h).imp id ih)

theorem isBare_declaration (hp : IsBare override.prop) (hv : IsBare override.value) :
    IsBare override.declaration := by
  refine ((hp.append (by decide)).append hv).append ?_
  split <;> decide

theorem balanced_renderRule (hr : '}' ∉ rule)
    (h : ∀ override ∈ overrides, IsBare override.prop ∧ IsBare override.value) :
    Balanced (renderRule rule overrides) := by
  have hd : IsBare (Text.join [' '] ((firstOfProps [] overrides).map Override.declaration) ++ [' ']) := by
    refine (Text.isBare_join (by decide) fun text ht => ?_).append (by decide)
    obtain ⟨override, ho, rfl⟩ := List.mem_map.mp ht
    obtain ⟨hp, hv⟩ := h override (mem_of_mem_firstOfProps ho)
    exact isBare_declaration hp hv
  have hh : '}' ∉ rule ++ " \x7b ".toList := by
    simpa using hr
  have hc := hd.balanced.enclosed hh
  have ho : (rule ++ " \x7b ".toList).count '{' = rule.count '{' + 1 := by
    rw [List.count_append]
    rfl
  have he : renderRule rule overrides =
      rule ++ " \x7b ".toList ++
        (Text.join [' '] ((firstOfProps [] overrides).map Override.declaration) ++ [' ']) ++
        List.replicate (rule.count '{' + 1) '}' ++ ['\n'] := by
    rw [renderRule, List.count_eq_zero.mpr hr, List.replicate_succ]
    simp
  rw [ho] at hc
  rw [he]
  exact hc.append (IsBare.balanced (by decide))

theorem balanced_renderFont (hf : IsBare family) (hs : IsBare source) :
    Balanced (renderFont family source) := by
  have hblock {head front middle back : Text} (hh : '}' ∉ head) (hc : head.count '{' = 1)
      (hfront : IsBare front) (hmiddle : IsBare middle) (hback : IsBare back) :
      Balanced (head ++ front ++ family ++ middle ++ source ++ (back ++ ['}', '\n'])) := by
    have hb := ((((hfront.append hf).append hmiddle).append hs).append hback).balanced.enclosed hh
    have hn : IsBare ['\n'] := by decide
    rw [hc] at hb
    simpa using hb.append hn.balanced
  exact @hblock "@font-face \x7b" " font-family: " "; src: url('" "'); " (by decide) (by decide)
    (by decide) (by decide) (by decide)

theorem exists_of_mem_keys (h : rule ∈ (grouped records).keys) :
    ∃ override ∈ records, override.rule = rule := by
  obtain ⟨entry, he, rfl⟩ := List.mem_map.mp h
  obtain ⟨rule, hr, rfl⟩ := List.mem_map.mp he
  exact List.mem_map.mp (List.mem_eraseDups.mp hr)

theorem balanced_render (hr : ∀ override ∈ records, '}' ∉ override.rule)
    (h : ∀ override ∈ records, IsBare override.prop ∧ IsBare override.value)
    (hf : ∀ font ∈ fonts, IsBare font.1 ∧ IsBare font.2) :
    Balanced (render fonts (grouped records)) := by
  refine (Text.balanced_flatMap ?_).append (Text.balanced_flatMap ?_)
  · rintro ⟨rule, overrides⟩ hm
    obtain ⟨override, ho, rfl⟩ := exists_of_mem_keys (List.mem_map_of_mem hm)
    obtain ⟨rule, -, he⟩ := List.mem_map.mp hm
    cases he
    exact balanced_renderRule (hr override ho) fun other hm => h other (List.mem_of_mem_filter hm)
  · rintro ⟨family, source⟩ hm
    exact balanced_renderFont (hf _ hm).1 (hf _ hm).2

end OverrideStore

-- ---------------------------------------------------------------------------
-- Custom scopes
-- ---------------------------------------------------------------------------

def Call.IsBare (call : Call) : Prop :=
  call.function = .ruleScope → ∀ selector,
    (Function.argument call.args 0).shown = .ok selector → Text.IsBare selector

def CustomScopes.Open (scopes : CustomScopes) : Prop :=
  ∀ theme rule result, scopes.registered? theme rule = some result → '}' ∉ result

theorem CustomScopes.Open.register {scopes : CustomScopes} {result : Text} (h : scopes.Open)
    (hr : '}' ∉ result) (theme rule : Text) : (scopes.register theme rule result).Open := by
  intro other rule' result' ho
  rw [registered?_register] at ho
  split at ho
  · cases ho
    exact hr
  · exact h _ _ _ ho

theorem CustomScopes.Open.scope {scopes : CustomScopes} {rule theme : Text} (h : scopes.Open)
    (hr : '}' ∉ rule) (ht : '}' ∉ theme) : '}' ∉ scopes.scope rule theme := by
  rw [CustomScopes.scope]
  cases hg : Entries.get? rule (scopes.ofTheme theme) with
  | none => exact Scope.not_mem_standard hr ht
  | some result => exact h theme rule result hg

theorem Call.Does.open {call : Call} {work after : Workspace} (h : call.Does work after)
    (hw : work.scopes.Open) (hc : call.IsBare) (ht : '}' ∉ call.site.theme.name) :
    after.scopes.Open := by
  cases h with
  | setLocal | setGlobal | report => exact hw
  | scope h mode selector log hs =>
    exact hw.register (Scope.not_mem_custom mode (Sheet.not_mem_ruleNameAt _ _)
      (hc h selector hs).2 ht) _ _

theorem Workspace.open_through {happenings : List Happening} {work : Workspace} {theme : Theme}
    (h : work.scopes.Open) (ht : '}' ∉ theme.name)
    (hc : ∀ call, .apply call ∈ happenings → call.IsBare ∧ call.site.theme = theme) :
    (work.through happenings).scopes.Open := by
  induction happenings generalizing work with
  | nil => exact h
  | cons happening rest ih =>
    refine ih ?_ fun call hm => hc call (List.mem_cons_of_mem _ hm)
    cases happening with
    | read => exact h
    | apply call =>
      obtain ⟨hb, hs⟩ := hc call List.mem_cons_self
      exact (call.does_perform work).open h hb (hs ▸ ht)

-- ---------------------------------------------------------------------------
-- Calls that are made
-- ---------------------------------------------------------------------------

namespace Processor

/-- A call that one of the markers makes when the scan comes to it. -/
inductive Calls (source : Text) (theme : Theme) : List Sheet.Marker → Processor → Call → Prop
  | here {marker : Sheet.Marker} {markers : List Sheet.Marker} {processor : Processor} {call : Call}
      (h : .apply call ∈
        Expression.traceOf processor.functions (siteOf source theme marker) processor.work) :
      Calls source theme (marker :: markers) processor call
  | later {marker : Sheet.Marker} {markers : List Sheet.Marker} {processor after : Processor}
      {recorded : Bool} {call : Call}
      (hr : Step.run (scanMarker source theme marker) processor = (.ok recorded, after))
      (h : Calls source theme markers after call) :
      Calls source theme (marker :: markers) processor call

inductive CallsIn (theme : Theme) : List Sheet → Processor → Call → Prop
  | here {sheet : Sheet} {sheets : List Sheet} {processor fetched : Processor} {text : Text}
      {call : Call} (hf : Step.run (fetch sheet) processor = (.ok text, fetched))
      (h : Calls text theme (Sheet.markers text) fetched call) :
      CallsIn theme (sheet :: sheets) processor call
  | later {sheet : Sheet} {sheets : List Sheet} {processor fetched after : Processor} {text : Text}
      {recorded : Nat} {call : Call}
      (hf : Step.run (fetch sheet) processor = (.ok text, fetched))
      (hs : Step.run (scan text theme) fetched = (.ok recorded, after))
      (h : CallsIn theme sheets after call) : CallsIn theme (sheet :: sheets) processor call

/-- A call that is made while themes are added. A theme that was scanned before makes none. -/
inductive Makes : List Addition → Processor → Call → Prop
  | here {addition : Addition} {rest : List Addition} {processor : Processor} {call : Call}
      (hn : processor.hasScanned addition.theme.name = false)
      (h : CallsIn addition.theme addition.sheets processor call) :
      Makes (addition :: rest) processor call
  | later {addition : Addition} {rest : List Addition} {processor : Processor} {call : Call}
      (h : Makes rest (processor.add addition) call) : Makes (addition :: rest) processor call

-- ---------------------------------------------------------------------------
-- Clean processors
-- ---------------------------------------------------------------------------

structure IsClean (override : Override) : Prop where
  rule : '}' ∉ override.rule
  prop : IsBare override.prop
  semicolon : ';' ∉ override.prop

structure Clean (records : List Override) (processor : Processor) : Prop where
  hooks : processor.hooks = []
  scopes : processor.work.scopes.Open
  overrides : processor.overrides = .grouped records
  clean : ∀ override ∈ records, IsClean override

variable {records : List Override} {processor : Processor} {theme : Theme} {source : Text}
  {sheets : List Sheet} {addition : Addition} {additions : List Addition} {block : Text}

theorem Clean.logged (h : Clean records processor) (log : List Event) :
    Clean records (processor.logged log) :=
  ⟨h.hooks, h.scopes, h.overrides, h.clean⟩

theorem Clean.recorded (h : Clean records processor) {override : Override} (ho : IsClean override) :
    Clean (records ++ [override]) (processor.recorded override) where
  hooks := h.hooks
  scopes := h.scopes
  overrides := by
    rw [Processor.recorded, h.overrides, OverrideStore.record_grouped]
  clean other hm := by
    rcases List.mem_append.mp hm with hm | hm
    · exact h.clean other hm
    · exact List.mem_singleton.mp hm ▸ ho

def Later (records : List Override) (after : Processor) : Prop :=
  ∃ more, Clean (records ++ more) after

theorem Clean.later (h : Clean records processor) : Later records processor :=
  ⟨[], by rwa [List.append_nil]⟩

theorem Later.trans {more : List Override} {after : Processor}
    (h : Later (records ++ more) after) : Later records after := by
  obtain ⟨last, h⟩ := h
  exact ⟨more ++ last, by rwa [← List.append_assoc]⟩

theorem Clean.scanMarker (h : Clean records processor) (ht : '}' ∉ theme.name)
    {marker : Sheet.Marker}
    (hc : ∀ call, .apply call ∈ Expression.traceOf processor.functions (siteOf source theme marker)
      processor.work → call.IsBare) :
    Later records (Step.run (scanMarker source theme marker) processor).2 := by
  have hled : Clean records (processor.led (siteOf source theme marker)).2 := by
    obtain ⟨log, hl⟩ := Expression.exists_state_led processor.functions
      (siteOf source theme marker) processor.work
    refine ⟨h.hooks, ?_, h.overrides, h.clean⟩
    show (Expression.led processor.functions (siteOf source theme marker) processor.work).2.scopes.Open
    rw [hl]
    refine Workspace.open_through h.scopes ht fun call hm => ⟨hc call hm, ?_⟩
    obtain ⟨_, _, _, text, -, hs, -⟩ := Expression.apply_mem_traceOf hm
    rw [hs]
    rfl
  obtain ⟨hp, hs, hr⟩ := Sheet.contextAt_clean source marker.start
  rw [run_scanMarker h.hooks]
  dsimp only
  split
  · exact hled.later
  · exact hled.later
  · split
    · exact ⟨_, hled.recorded ⟨hled.scopes.scope hr ht, hp, hs⟩⟩
    · exact (hled.logged _).later

theorem Clean.scanMarkers (h : Clean records processor) (ht : '}' ∉ theme.name)
    {markers : List Sheet.Marker}
    (hc : ∀ call, Calls source theme markers processor call → call.IsBare) :
    Later records (Step.run (scanMarkers source theme markers) processor).2 := by
  induction markers generalizing records processor with
  | nil => exact h.later
  | cons marker markers ih =>
    have hm := h.scanMarker ht fun call hm => hc call (.here hm)
    rw [state_scanMarkers_cons]
    cases hr : Step.run (Processor.scanMarker source theme marker) processor with
    | mk result after =>
      rw [hr] at hm
      cases result with
      | error => exact hm
      | ok recorded =>
        obtain ⟨more, hm⟩ := hm
        exact (ih hm fun call hs => hc call (.later hr hs)).trans

theorem Clean.scanSheets (h : Clean records processor) (ht : '}' ∉ theme.name)
    (hc : ∀ call, CallsIn theme sheets processor call → call.IsBare) :
    Later records (Step.run (scanSheets theme sheets) processor).2 := by
  induction sheets generalizing records processor with
  | nil => exact h.later
  | cons sheet sheets ih =>
    obtain ⟨log, hf⟩ := exists_run_fetch sheet processor
    have hm := (h.logged log).scanMarkers ht fun call hs => hc call (.here hf hs)
    rw [state_scanSheets_cons theme sheet sheets hf]
    cases hs : Step.run (scan sheet.scanned theme) (processor.logged log) with
    | mk result after =>
      rw [scan] at hs
      rw [hs] at hm
      cases result with
      | error => exact hm
      | ok recorded =>
        obtain ⟨more, hm⟩ := hm
        exact (ih hm fun call hs' => hc call (.later hf hs hs')).trans

theorem Clean.add (h : Clean records processor) (ht : '}' ∉ addition.theme.name)
    (hc : processor.hasScanned addition.theme.name = false →
      ∀ call, CallsIn addition.theme addition.sheets processor call → call.IsBare) :
    Later records (processor.add addition) := by
  obtain ⟨scanned, log, he⟩ := exists_add_eq processor addition
  have hs : Later records (processor.settled addition.sheets addition.theme) := by
    rw [settled]
    split
    · exact h.later
    · next hn => exact h.scanSheets ht (hc (Bool.eq_false_iff.mpr hn))
  obtain ⟨more, hs⟩ := hs
  rw [he]
  exact ⟨more, hs.hooks, hs.scopes, hs.overrides, hs.clean⟩

/-- Adding themes keeps a processor clean, and forgets no override. -/
theorem Clean.addAll (h : Clean records processor)
    (ht : ∀ addition ∈ additions, '}' ∉ addition.theme.name)
    (hc : ∀ call, Makes additions processor call → call.IsBare) :
    Later records (processor.addAll additions) := by
  induction additions generalizing records processor with
  | nil => exact h.later
  | cons addition additions ih =>
    obtain ⟨more, hm⟩ := h.add (ht addition List.mem_cons_self) fun hn call hs =>
      hc call (.here hn hs)
    exact (ih hm (fun other ho => ht other (List.mem_cons_of_mem _ ho))
      fun call hs => hc call (.later hs)).trans

-- ---------------------------------------------------------------------------
-- Published blocks
-- ---------------------------------------------------------------------------

theorem mem_of_fontTexts {fonts : Entries Value} {texts : Entries Text}
    (h : fontTexts fonts = .ok texts) {font : Text × Text} (hm : font ∈ texts) :
    ∃ source, (font.1, source) ∈ fonts ∧ source.shown = .ok font.2 := by
  induction fonts generalizing texts with
  | nil =>
    cases h
    cases hm
  | cons entry fonts ih =>
    obtain ⟨family, source⟩ := entry
    rw [fontTexts] at h
    cases hs : source.shown with
    | error =>
      rw [hs] at h
      cases h
    | ok text =>
      cases hr : fontTexts fonts with
      | error =>
        rw [hs, hr] at h
        cases h
      | ok rest =>
        rw [hs, hr] at h
        cases h
        rcases List.mem_cons.mp hm with rfl | hm
        · exact ⟨source, List.mem_cons_self, hs⟩
        · obtain ⟨other, ho, hother⟩ := ih hr hm
          exact ⟨other, List.mem_cons_of_mem _ ho, hother⟩

def BareFonts (theme : Theme) : Prop :=
  ∀ font ∈ theme.fonts.getD [], IsBare font.1 ∧ ∀ text, font.2.shown = .ok text → IsBare text

theorem Clean.balanced_block (h : Clean records (processor.add addition))
    (hb : processor.block? addition = some block)
    (hv : ∀ override ∈ records, IsBare override.value) (hf : BareFonts addition.theme) :
    Balanced block := by
  obtain ⟨-, fonts, ht, rfl⟩ := published_eq_some_iff.mp (published_of_block? hb)
  rw [h.overrides]
  refine OverrideStore.balanced_render (fun override hm => (h.clean override hm).rule)
    (fun override hm => ⟨(h.clean override hm).prop, hv override hm⟩) fun font hm => ?_
  obtain ⟨source, hs, hshown⟩ := mem_of_fontTexts ht hm
  exact ⟨(hf _ hs).1, (hf _ hs).2 _ hshown⟩

theorem Clean.mem_ofRule_iff (h : Clean records processor) {override : Override} {rule : Text} :
    override ∈ processor.overrides.ofRule rule ↔ override ∈ records ∧ override.rule = rule := by
  rw [h.overrides, OverrideStore.ofRule_grouped, List.mem_filter, decide_eq_true_iff]

def BareValues (store : OverrideStore) : Prop :=
  ∀ rule, ∀ override ∈ store.ofRule rule, IsBare override.value

theorem Clean.bareValues (h : Clean records processor) :
    BareValues processor.overrides ↔ ∀ override ∈ records, IsBare override.value := by
  constructor
  · exact fun hv override hm => hv override.rule override (h.mem_ofRule_iff.mpr ⟨hm, rfl⟩)
  · exact fun hv rule override hm => hv override (h.mem_ofRule_iff.mp hm).1

theorem Clean.balanced_blocks (h : Clean records processor)
    (ht : ∀ addition ∈ additions, '}' ∉ addition.theme.name)
    (hf : ∀ addition ∈ additions, BareFonts addition.theme)
    (hc : ∀ call, Makes additions processor call → call.IsBare)
    (hv : BareValues (processor.addAll additions).overrides) :
    ∀ block ∈ processor.blocks additions, Balanced block := by
  induction additions generalizing records processor with
  | nil => nofun
  | cons addition additions ih =>
    have ht' : ∀ other ∈ additions, '}' ∉ other.theme.name := fun other ho =>
      ht other (List.mem_cons_of_mem _ ho)
    have hc' : ∀ call, Makes additions (processor.add addition) call → call.IsBare :=
      fun call hs => hc call (.later hs)
    obtain ⟨more, hm⟩ := h.add (ht addition List.mem_cons_self) fun hn call hs =>
      hc call (.here hn hs)
    obtain ⟨last, hl⟩ := hm.addAll ht' hc'
    intro block hb
    rcases List.mem_append.mp hb with hb | hb
    · -- The overrides of this block are among those at the end.
      refine hm.balanced_block (Option.mem_toList.mp hb) (fun override ho => ?_)
        (hf addition List.mem_cons_self)
      exact hl.bareValues.mp hv override (List.mem_append_left _ ho)
    · exact ih hm ht' (fun other ho => hf other (List.mem_cons_of_mem _ ho)) hc' hv block hb

/-- Without hooks, and as long as themes, fonts, values and selectors of custom scopes have no
braces, rule names close no brace, properties have no brace and no semicolon, and every published
block is balanced, for all style sheets and in whatever order themes are added. -/
theorem published_balanced (hq : Quiet processor) (ho : processor.overrides = [])
    (ht : ∀ addition ∈ additions, IsBare addition.theme.name ∧ BareFonts addition.theme)
    (hc : ∀ call, Makes additions processor call → call.IsBare)
    (hv : BareValues (processor.addAll additions).overrides) :
    (∀ rule ∈ (processor.addAll additions).overrides.keys, '}' ∉ rule) ∧
      (∀ rule, ∀ override ∈ (processor.addAll additions).overrides.ofRule rule,
        IsBare override.prop ∧ ';' ∉ override.prop) ∧
      ∀ block ∈ processor.blocks additions, Balanced block := by
  have hstart : Clean [] processor :=
    { hooks := hq.hooks
      scopes := by
        rw [hq.scopes]
        exact nofun
      overrides := ho
      clean := nofun }
  have hn : ∀ addition ∈ additions, '}' ∉ addition.theme.name := fun addition hm => (ht addition hm).1.2
  obtain ⟨records, hl⟩ := hstart.addAll hn hc
  rw [List.nil_append] at hl
  refine ⟨fun rule hm => ?_, fun rule override hm => ?_,
    hstart.balanced_blocks hn (fun addition hm => (ht addition hm).2) hc hv⟩
  · rw [hl.overrides] at hm
    obtain ⟨override, hr, rfl⟩ := OverrideStore.exists_of_mem_keys hm
    exact (hl.clean override hr).rule
  · have hclean := hl.clean override (hl.mem_ofRule_iff.mp hm).1
    exact ⟨hclean.prop, hclean.semicolon⟩

def nestedSheet : Text :=
  "@media x \x7b .a \x7b /*![demo.fg]*/ color: black; \x7d \x7d"

def nestedOverride : Override := ⟨"@media x \x7b .dark .a", "color", "red", "fg", false⟩

theorem markers_nestedSheet : Sheet.markers nestedSheet = [⟨"demo.fg".toList, 16, 30⟩] := by
  cbv

theorem gives_nestedSheet :
    List.Forall₂ (Gives nestedSheet redTheme) (Sheet.markers nestedSheet) [some nestedOverride] := by
  have hv : (Sheet.contextAt nestedSheet 16).isValid = true := by decide +kernel
  have hg := @gives_some nestedSheet "red" redTheme ⟨"demo.fg".toList, 16, 30⟩
    (run_evaluate_path parse_color 16) hv
  have ho : nestedOverride =
      { rule := Scope.standard (Sheet.contextAt nestedSheet 16).rule redTheme.name
        prop := (Sheet.contextAt nestedSheet 16).prop
        value := "red"
        key := "fg"
        important := (Sheet.contextAt nestedSheet 16).important } := by
    decide +kernel
  rw [markers_nestedSheet, ho]
  exact .cons hg .nil

def nestedAddition : Addition := ⟨[⟨"a.css", [], .ok nestedSheet⟩], redTheme⟩

theorem not_makes_nested (call : Call) : ¬ Makes [nestedAddition] (initial "demo" []) call := by
  have hcalls (processor : Processor) :
      ¬ Calls nestedSheet redTheme (Sheet.markers nestedSheet) processor call := by
    have ht := @Expression.traceOf_path processor.functions
      (siteOf nestedSheet redTheme ⟨"demo.fg".toList, 16, 30⟩) processor.work _ _ parse_color
    rw [markers_nestedSheet]
    rintro (h | ⟨-, h⟩)
    · rw [ht] at h
      cases h
    · cases h
  rintro (⟨-, hm⟩ | hm)
  · rcases hm with ⟨hf, hm⟩ | ⟨-, -, hm⟩
    · cases hf
      exact hcalls _ hm
    · cases hm
  · cases hm

theorem overrides_nested :
    ((initial "demo" []).addAll [nestedAddition]).overrides = .grouped [nestedOverride] := by
  obtain ⟨scanned, log, ha⟩ := exists_add_eq (initial "demo" []) nestedAddition
  have hq : Quiet (initial "demo" []) := ⟨rfl, rfl⟩
  obtain ⟨last, count, hs⟩ := run_scanSheets gives_nestedSheet hq "a.css" []
  show ((initial "demo" []).add nestedAddition).overrides = _
  rw [ha]
  show (Step.run (scanSheets redTheme [⟨"a.css", [], .ok nestedSheet⟩])
    (initial "demo" [])).2.overrides = _
  rw [hs]
  exact OverrideStore.record_grouped [] nestedOverride

theorem blocks_nested : (initial "demo" []).blocks [nestedAddition] =
    ["@media x \x7b .dark .a \x7b color: red; \x7d\x7d\n".toList] := by
  have hb : (initial "demo" []).block? nestedAddition =
      some "@media x \x7b .dark .a \x7b color: red; \x7d\x7d\n".toList := by
    rw [block?, nestedAddition, run_addTheme gives_nestedSheet "demo" "a.css" []]
    decide +kernel
  rw [blocks, hb]
  rfl

theorem published_balanced_nested :
    Quiet (initial "demo" []) ∧
      BareValues ((initial "demo" []).addAll [nestedAddition]).overrides ∧
      (initial "demo" []).blocks [nestedAddition] =
        ["@media x \x7b .dark .a \x7b color: red; \x7d\x7d\n".toList] ∧
      Balanced "@media x \x7b .dark .a \x7b color: red; \x7d\x7d\n" := by
  have hq : Quiet (initial "demo" []) := ⟨rfl, rfl⟩
  have hv : BareValues ((initial "demo" []).addAll [nestedAddition]).overrides := by
    intro rule override hm
    rw [overrides_nested, OverrideStore.ofRule_grouped] at hm
    obtain rfl := List.mem_singleton.mp (List.mem_of_mem_filter hm)
    decide
  have ht : ∀ addition ∈ [nestedAddition],
      IsBare addition.theme.name ∧ BareFonts addition.theme := by
    intro addition hm
    obtain rfl := List.mem_singleton.mp hm
    refine ⟨by decide, ?_⟩
    intro font hf
    cases hf
  have hp := (published_balanced hq rfl ht (fun call hm => absurd hm (not_makes_nested call)) hv).2.2
  rw [blocks_nested] at hp
  exact ⟨hq, hv, blocks_nested, hp _ List.mem_cons_self⟩

end Processor

end Retheme
