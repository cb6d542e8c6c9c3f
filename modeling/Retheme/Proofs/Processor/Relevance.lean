import Retheme.Proofs.Expression.Mention
import Retheme.Proofs.Processor.Keeping
import Retheme.Proofs.Processor.Independence

/-!
# What theme data matters

Of the data of a theme an expression asks for the values at the paths that it
mentions, those in calls of unknown functions included, which are not even
looked at. Two themes of one name that agree on these paths are not told apart:
evaluation does the same for both, step by step, whether it fails or not, and so
does adding them, when the hooks do not tell them apart either.
-/

namespace Retheme

variable {functions : Registry} {theme other : Theme} {asked : Node → Prop}

/-- Two themes of one name have the same value, or none, at all paths that are asked for, and no
function from outside is asked for. Such a function may read all data. -/
structure Theme.AgreeOn (functions : Registry) (asked : Node → Prop) (theme other : Theme) :
    Prop where
  name : theme.name = other.name
  own : ∀ name args text, asked (.call name args text) →
    ∀ apply, Entries.get? name functions ≠ some (.custom apply)
  value : ∀ segments text, asked (.path segments text) →
    theme.resolve? segments = other.resolve? segments

theorem Theme.AgreeOn.mono {fewer : Node → Prop} (h : Theme.AgreeOn functions asked theme other)
    (hs : ∀ node, fewer node → asked node) : Theme.AgreeOn functions fewer theme other where
  name := h.name
  own name args text hm := h.own name args text (hs _ hm)
  value segments text hm := h.value segments text (hs _ hm)

theorem Theme.AgreeOn.of_isOwn (hf : functions.IsOwn) (hn : theme.name = other.name)
    (hv : ∀ segments text, asked (.path segments text) →
      theme.resolve? segments = other.resolve? segments) :
    Theme.AgreeOn functions asked theme other where
  name := hn
  own called _ _ _ := hf called
  value := hv

open Theme (AgreeOn)

-- ---------------------------------------------------------------------------
-- Evaluation
-- ---------------------------------------------------------------------------

theorem Function.apply_congr {function : Function} (hf : ∀ apply, function ≠ .custom apply)
    (hn : theme.name = other.name) (expression source : Text) (position : Int) (args : List Value) :
    function.apply ⟨expression, theme, source, position⟩ args =
      function.apply ⟨expression, other, source, position⟩ args := by
  cases function with
  | builtin | locals | globals => rfl
  | ruleScope => simp only [apply, Workspace.setRuleScope, hn]
  | custom apply => exact absurd rfl (hf apply)

namespace Expression

variable {source expression text : Text} {position : Int}

mutual
/-- An argument is resolved alike for themes that agree on what stands in it. -/
theorem resolve_congr : ∀ node : Node, AgreeOn functions (·.StandsIn node) theme other →
    resolve functions ⟨text, theme, source, position⟩ node =
      resolve functions ⟨text, other, source, position⟩ node
  | .literal _, _ => by rw [resolve, resolve]
  | .variable _ _, _ => by rw [resolve, resolve]
  | .path segments _, h => by rw [resolve, resolve, h.value segments _ .here]
  | .call name args _, h => by
    rw [resolve, resolve]
    cases hn : Entries.get? name functions with
    | none => rfl
    | some function =>
      have hf : ∀ apply, function ≠ .custom apply :=
        fun apply he => h.own name args _ .here apply (he ▸ hn)
      simp only [Function.apply_congr hf h.name,
        resolveAll_congr args fun arg hm => h.mono fun _ => .inside hm]

theorem resolveAll_congr : ∀ nodes : List Node,
    (∀ node ∈ nodes, AgreeOn functions (·.StandsIn node) theme other) →
    resolveAll functions ⟨text, theme, source, position⟩ nodes =
      resolveAll functions ⟨text, other, source, position⟩ nodes
  | [], _ => by rw [resolveAll, resolveAll]
  | node :: nodes, h => by
    rw [resolveAll, resolveAll, resolve_congr node (h node List.mem_cons_self),
      resolveAll_congr nodes fun next hm => h next (List.mem_cons_of_mem _ hm)]
end

theorem lead_congr (h : AgreeOn functions (Mentions expression) theme other) :
    lead functions ⟨expression, theme, source, position⟩ =
      lead functions ⟨expression, other, source, position⟩ := by
  have hm : ∀ parsed, parse expression = .ok parsed →
      AgreeOn functions (·.StandsIn parsed.toNode) theme other :=
    fun parsed hp => h.mono fun node hs => ⟨parsed, hp, hs⟩
  rw [lead, lead]
  cases hp : parse expression with
  | error => rfl
  | ok parsed =>
    cases parsed with
    | path segments text => simp only [(hm _ hp).value segments text .here]
    | call name args text =>
      dsimp only
      cases hn : Entries.get? name functions with
      | none => rfl
      | some function =>
        have hf : ∀ apply, function ≠ .custom apply :=
          fun apply he => (hm _ hp).own name args text .here apply (he ▸ hn)
        simp only [evaluateCall, Function.apply_congr hf h.name,
          resolveAll_congr args fun arg ha => (hm _ hp).mono fun _ => .inside ha]

end Expression

namespace Processor

open Step (Agree)

variable {processor : Processor} {source : Text} {marker : Sheet.Marker} {inv : Processor → Prop}
  {sheets : List Sheet}

theorem led_congr {expression : Text}
    (h : AgreeOn processor.functions (Expression.Mentions expression) theme other) (source : Text)
    (position : Int) :
    processor.led ⟨expression, theme, source, position⟩ =
      processor.led ⟨expression, other, source, position⟩ := by
  rw [led, led, Expression.led, Expression.led, Expression.lead_congr h]

-- ---------------------------------------------------------------------------
-- Scanning
-- ---------------------------------------------------------------------------

def HooksAgree (hooks : List Hook) (theme other : Theme) : Prop :=
  ∀ hook ∈ hooks, hook theme = hook other

theorem runHooks_congr {hooks : List Hook} (h : HooksAgree hooks theme other)
    (override : Override) : runHooks theme override hooks = runHooks other override hooks := by
  induction hooks generalizing override with
  | nil => rfl
  | cons hook hooks ih =>
    have hi := ih fun next hm => h next (List.mem_cons_of_mem _ hm)
    simp only [runHooks, h hook List.mem_cons_self, hi]

theorem run_scanMarker_congr
    (h : AgreeOn processor.functions (Expression.Mentions marker.expression) theme other)
    (hh : HooksAgree processor.hooks theme other) :
    Step.run (scanMarker source theme marker) processor =
      Step.run (scanMarker source other marker) processor := by
  have hkeep (override : Override) (work : Workspace) :
      Step.run (keep theme override) { processor with work } =
        Step.run (keep other override) { processor with work } := by
    simp only [keep, Step.run_bind, Step.run_read, runHooks_congr hh]
  rw [run_scanMarker_eq, run_scanMarker_eq, siteOf, siteOf, led_congr h]
  simp only [overrideOf, h.name]
  split
  · rfl
  · rfl
  · split
    · exact hkeep _ _
    · rfl

def Same (inv : Processor → Prop) (processor other : Processor) : Prop :=
  inv processor ∧ processor = other

/-- A step that keeps a property agrees with one that does the same wherever the property holds. -/
theorem agree_same {α : Type} {post : α → Prop} {step next : Step Processor α}
    (hk : Agree (Relogged inv) post step step)
    (he : ∀ processor, inv processor → Step.run step processor = Step.run next processor) :
    Agree (Same inv) post step next := by
  rintro processor _ ⟨hi, rfl⟩
  obtain ⟨-, ⟨hkept, -⟩, hp⟩ := hk processor processor (.refl hi)
  rw [← he processor hi]
  exact ⟨rfl, ⟨hkept, rfl⟩, hp⟩

def HasSetup (functions : Registry) (hooks : List Hook) (processor : Processor) : Prop :=
  processor.functions = functions ∧ processor.hooks = hooks

theorem kept_hasSetup (functions : Registry) (hooks : List Hook) :
    Kept (HasSetup functions hooks) where
  work _ _ h := h
  record _ _ h := h
  scanned _ _ h := h

def MentionedIn (sheets : List Sheet) (node : Node) : Prop :=
  ∃ sheet ∈ sheets, ∃ marker ∈ Sheet.markers sheet.scanned, Expression.Mentions marker.expression node

variable {hooks : List Hook}

theorem agree_scan_congr (hh : HooksAgree hooks theme other)
    (h : ∀ marker ∈ Sheet.markers source,
      AgreeOn functions (Expression.Mentions marker.expression) theme other) :
    Agree (Same (HasSetup functions hooks)) (fun _ => True) (scan source theme)
      (scan source other) := by
  have hk := kept_hasSetup functions hooks
  refine agree_scanMarkers (List.forall₂_same.mpr fun marker hm => ?_)
  refine agree_same (agree_scanMarker hk.indifferent (hk.agree_evaluate _ _ _ _) rfl rfl) ?_
  rintro processor ⟨rfl, rfl⟩
  exact run_scanMarker_congr (h marker hm) hh

theorem agree_scanSheets {rel : Processor → Processor → Prop}
    (hf : ∀ sheet ∈ sheets, Agree rel (fun text => text = sheet.scanned) (fetch sheet) (fetch sheet))
    (hs : ∀ sheet ∈ sheets, Agree rel (fun _ => True) (scan sheet.scanned theme)
      (scan sheet.scanned other)) :
    Agree rel (fun _ => True) (scanSheets theme sheets) (scanSheets other sheets) := by
  induction sheets with
  | nil => exact Agree.pure trivial
  | cons sheet sheets ih =>
    have hrest := ih (fun next hm => hf next (List.mem_cons_of_mem _ hm))
      (fun next hm => hs next (List.mem_cons_of_mem _ hm))
    rw [scanSheets_cons, scanSheets_cons]
    refine (hf sheet List.mem_cons_self).bind fun text ht => ?_
    subst ht
    exact (hs sheet List.mem_cons_self).bind fun _ _ =>
      hrest.bind fun _ _ => Agree.pure trivial

theorem agree_scanSheets_congr (hh : HooksAgree hooks theme other)
    (h : AgreeOn functions (MentionedIn sheets) theme other) :
    Agree (Same (HasSetup functions hooks)) (fun _ => True) (scanSheets theme sheets)
      (scanSheets other sheets) := by
  refine agree_scanSheets (fun sheet _ => ?_) fun sheet hs => agree_scan_congr hh fun marker hm => ?_
  · rintro processor _ ⟨hi, rfl⟩
    obtain ⟨log, hf⟩ := exists_run_fetch sheet processor
    rw [hf]
    exact ⟨rfl, ⟨hi, rfl⟩, fun _ ht => (Except.ok.inj ht).symm⟩
  · exact h.mono fun node hn => ⟨sheet, hs, marker, hm, hn⟩

theorem add_congr (hh : HooksAgree processor.hooks theme other)
    (h : AgreeOn processor.functions (MentionedIn sheets) theme other) :
    processor.add ⟨sheets, theme⟩ = processor.add ⟨sheets, other⟩ := by
  have hscan := agree_scanSheets_congr hh h processor processor ⟨⟨rfl, rfl⟩, rfl⟩
  have hrun : Step.run (scanSheets theme sheets) processor =
      Step.run (scanSheets other sheets) processor :=
    Prod.ext hscan.1 hscan.2.1.2
  rw [add_eq, add_eq, scanOnce, scanOnce]
  simp only [Step.run_bind, Step.run_read, id_eq, h.name]
  split
  · rfl
  · simp only [Step.run_bind, hrun]

/-- Two themes of one name with the same values at all paths that an expression mentions give it the
same result, or failure, and the same effects. So whatever else their data hold, every sheet whose
markers mention nothing but what they agree on gets the same overrides for both. -/
theorem only_mentioned_data_matters (processor : Processor) (theme other : Theme) :
    (∀ expression source position,
      AgreeOn processor.functions (Expression.Mentions expression) theme other →
        Step.run (evaluate expression theme source position) processor =
          Step.run (evaluate expression other source position) processor) ∧
      ∀ sheets, HooksAgree processor.hooks theme other →
        AgreeOn processor.functions (MentionedIn sheets) theme other →
          processor.add ⟨sheets, theme⟩ = processor.add ⟨sheets, other⟩ := by
  refine ⟨fun expression source position h => ?_, fun sheets hh h => add_congr hh h⟩
  rw [run_evaluate, run_evaluate, led_congr h]

def wideTheme : Theme := redTheme.setValue "bg" (.text "blue")

theorem agreeOn_wideTheme {asked : Node → Prop}
    (h : ∀ segments text, asked (.path segments text) →
      segments = ["demo".toList, "fg".toList]) :
    AgreeOn .initial asked redTheme wideTheme := by
  refine .of_isOwn Registry.initial_isOwn rfl fun segments text ha => ?_
  rw [h segments text ha]
  rfl

theorem only_mentioned_data_matters_wide :
    redTheme ≠ wideTheme ∧
      Step.run (evaluate "url(demo.fg)" redTheme [] 0) (initial "demo" []) =
        Step.run (evaluate "url(demo.fg)" wideTheme [] 0) (initial "demo" []) ∧
      (initial "demo" []).add ⟨colorSheets, redTheme⟩ =
        (initial "demo" []).add ⟨colorSheets, wideTheme⟩ := by
  obtain ⟨hevaluate, hadd⟩ :=
    only_mentioned_data_matters (initial "demo" []) redTheme wideTheme
  refine ⟨?_, hevaluate _ _ _ (agreeOn_wideTheme ?_), hadd _ nofun (agreeOn_wideTheme ?_)⟩
  · intro h
    cases h
  · intro segments text hm
    rcases Expression.mentions_url hm with h | h
    · cases h
    · cases h
      rfl
  · rintro segments text ⟨sheet, hs, marker, hm, parsed, hp, hn⟩
    obtain rfl := List.mem_singleton.mp hs
    obtain rfl := List.mem_singleton.mp (markers_colorSheet ▸ hm)
    obtain rfl := Except.ok.inj (parse_color.symm.trans hp)
    cases hn
    rfl

end Processor

end Retheme
