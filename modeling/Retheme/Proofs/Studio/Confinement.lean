import Retheme.Proofs.Expression.Mention
import Retheme.Proofs.Studio.LastWrite

/-!
# What evaluation may change

An expression that is evaluated for a theme changes variables, custom scopes of
this theme and reports, whether it fails or not, and nothing else in its
processor, in other processors, in the style blocks and in the themes. Custom
scopes are kept apart by the one write to them (`stable_othersScopes`). An
expression that mentions none of the three functions with effects only reports.
-/

namespace Retheme

-- ---------------------------------------------------------------------------
-- Effects in a processor
-- ---------------------------------------------------------------------------

def Registry.writers : List Text := ["local", "global", "setRuleScope"]

def Function.isBuiltin : Function → Bool
  | builtin _ => true
  | _ => false

theorem Registry.exists_builtin {name : Text} {function : Function}
    (h : Entries.get? name Registry.initial = some function) (hn : name ∉ writers) :
    ∃ own, function = .builtin own := by
  have ha : Registry.initial.all
      (fun entry => entry.2.isBuiltin || writers.contains entry.1) = true := rfl
  have hb := List.all_eq_true.mp ha _ (Entries.mem_of_get? h)
  cases function with
  | builtin own => exact ⟨own, rfl⟩
  | _ => simp [Function.isBuiltin, hn] at hb

theorem CustomScopes.ofTheme_register {theme other : Text} (h : other ≠ theme) (rule result : Text)
    (scopes : CustomScopes) :
    (scopes.register theme rule result).ofTheme other = scopes.ofTheme other := by
  rw [register, ofTheme, Entries.get?_set, if_neg h.symm, ofTheme]

def Workspace.KeepsScopes (theme : Text) (start : CustomScopes) (work : Workspace) : Prop :=
  ∀ other, other ≠ theme → work.scopes.ofTheme other = start.ofTheme other

theorem Workspace.stable_othersScopes (theme : Theme) (start : CustomScopes) :
    Stable theme (Workspace.KeepsScopes theme.name start) (fun _ => True) where
  result _ _ := trivial
  data _ _ _ := trivial
  localValue _ _ _ _ _ := trivial
  globalValue _ _ _ _ _ := trivial
  report _ _ h := h
  setLocal _ _ _ h _ := h
  setGlobal _ _ _ h _ := h
  register _ _ _ _ h other ho := (CustomScopes.ofTheme_register ho _ _ _).trans (h other ho)

namespace Processor

/-- Nothing is changed but variables, the custom scopes of a theme, and the reports. -/
def ChangesOnly (theme : Text) (processor after : Processor) : Prop :=
  ∃ locals globals scopes log,
    after = { processor with work := ⟨locals, globals, scopes, log⟩ } ∧
      ∀ other, other ≠ theme → scopes.ofTheme other = processor.work.scopes.ofTheme other

variable {processor : Processor}

theorem changesOnly_evaluate (hf : processor.functions.IsOwn) (expression source : Text)
    (theme : Theme) (position : Int) :
    ChangesOnly theme.name processor
      (Step.run (evaluate expression theme source position) processor).2 := by
  obtain ⟨-, hk, -⟩ := Expression.agree_lead_of_isOwn
    (Workspace.stable_othersScopes theme processor.work.scopes)
    (.refl ⟨expression, theme, source, position⟩) hf processor.work processor.work
    (.refl fun _ _ => rfl)
  rw [run_evaluate]
  exact ⟨_, _, _, _, rfl, hk.1⟩

theorem exists_logged_evaluate {expression : Text}
    (h : Expression.MentionsBuiltins processor.functions expression) (theme : Theme) (source : Text)
    (position : Int) :
    ∃ log, (Step.run (evaluate expression theme source position) processor).2 =
      processor.logged log := by
  obtain ⟨log, hl⟩ := @Expression.MentionsBuiltins.exists_led_eq _
    ⟨expression, theme, source, position⟩ h processor.work
  refine ⟨log, ?_⟩
  rw [run_evaluate, led]
  dsimp only
  rw [hl, logged]

end Processor

-- ---------------------------------------------------------------------------
-- Effects in a studio
-- ---------------------------------------------------------------------------

namespace Studio

variable {studio : Studio} {name other store : Text} {processor bystander : Processor}
  {member : Member} {α : Type}

theorem blocks_within (name : Text) (step : Step Processor α) (studio : Studio) :
    (Step.run (within name step) studio).2.blocks = studio.blocks := by
  cases hm : Entries.get? name studio.members with
  | none => rw [run_within_of_none step hm]
  | some member => rw [run_within step hm]

theorem exists_member (h : studio.processor? name = some processor) :
    ∃ member, Entries.get? name studio.members = some member ∧
      processor = { member.processor with work := studio.workOf member } := by
  rw [processor?] at h
  obtain ⟨member, hm, rfl⟩ := Option.map_eq_some_iff.mp h
  exact ⟨member, hm, rfl⟩

theorem processor?_within (h : studio.processor? name = some processor) (step : Step Processor α) :
    (Step.run (within name step) studio).2.processor? name = some (Step.run step processor).2 := by
  obtain ⟨member, hm, rfl⟩ := exists_member h
  rw [run_within step hm]
  simp [processor?, shared]

theorem shared_within (h : Entries.get? name studio.members = some member)
    (step : Step Processor α) (store : Text) :
    (Step.run (within name step) studio).2.shared store =
      if member.store = store then
        (Step.run step { member.processor with work := studio.workOf member }).2.work.globals
      else studio.shared store := by
  rw [run_within step h, shared, shared]
  dsimp only
  rw [Entries.get?_set]
  split <;> rfl

theorem processor?_within_of_ne (hn : other ≠ name) (step : Step Processor α)
    (ho : studio.processor? other = some bystander) :
    ∃ member globals, Entries.get? other studio.members = some member ∧
      globals = (Step.run (within name step) studio).2.shared member.store ∧
      (Step.run (within name step) studio).2.processor? other =
        some { bystander with work := { bystander.work with globals } } := by
  obtain ⟨member, hm, rfl⟩ := exists_member ho
  refine ⟨member, _, hm, rfl, ?_⟩
  have hk : Entries.get? other (Step.run (within name step) studio).2.members = some member := by
    cases ha : Entries.get? name studio.members with
    | none => rw [run_within_of_none step ha, hm]
    | some acting =>
      rw [run_within step ha]
      dsimp only
      rw [Entries.get?_set, if_neg hn.symm, hm]
  rw [processor?, hk]
  rfl

end Studio

-- ---------------------------------------------------------------------------
-- Effects in a session
-- ---------------------------------------------------------------------------

structure Session where
  studio : Studio
  themes : Entries Theme

def Expression.MentionsNoWriter (expression : Text) : Prop :=
  ∀ name args text, Mentions expression (.call name args text) → name ∉ Registry.writers

namespace Session

/-- A processor evaluates an expression for a theme. A key without a theme fails. -/
def evaluate (name key expression source : Text) (position : Int) : Step Session (Option Text) := do
  match Entries.get? key (← Step.read Session.themes) with
  | some theme =>
    Step.within Session.studio (fun studio session => { session with studio })
      (Studio.within name (Processor.evaluate expression theme source position))
  | none => throw .wrongKind

variable {session : Session} {name key : Text} {processor : Processor} {theme : Theme}

theorem state_evaluate (ht : Entries.get? key session.themes = some theme)
    (expression source : Text) (position : Int) :
    (Step.run (evaluate name key expression source position) session).2 =
      { session with
        studio := (Step.run (Studio.within name
          (Processor.evaluate expression theme source position)) session.studio).2 } := by
  rw [evaluate, Step.run_bind, Step.run_read]
  dsimp only
  rw [ht]
  rfl

/-- Whatever an evaluation gives, themes and style blocks are the same after it. Its processor has
changed variables, custom scopes of the theme and reports only, other stores of variables and, but
for the shared variables, other processors are the same. An expression that mentions none of the
functions with effects leaves everything as it was and reports. -/
theorem evaluate_confined (hp : session.studio.processor? name = some processor)
    (hf : processor.functions = .initial) (ht : Entries.get? key session.themes = some theme)
    (expression source : Text) (position : Int) :
    let after := (Step.run (evaluate name key expression source position) session).2
    after.themes = session.themes ∧
      after.studio.blocks = session.studio.blocks ∧
      (∀ member store, Entries.get? name session.studio.members = some member →
        store ≠ member.store → after.studio.shared store = session.studio.shared store) ∧
      (∃ changed, after.studio.processor? name = some changed ∧
        processor.ChangesOnly theme.name changed ∧
        (Expression.MentionsNoWriter expression → ∃ log, changed = processor.logged log)) ∧
      ∀ other bystander, other ≠ name → session.studio.processor? other = some bystander →
        ∃ globals,
          after.studio.processor? other =
              some { bystander with work := { bystander.work with globals } } ∧
            (Expression.MentionsNoWriter expression → globals = bystander.work.globals) := by
  intro after
  have ha : after = { session with studio := _ } := state_evaluate ht expression source position
  have hown : processor.functions.IsOwn := hf ▸ Registry.initial_isOwn
  have hreports (hw : Expression.MentionsNoWriter expression) :
      ∃ log, (Step.run (Processor.evaluate expression theme source position) processor).2 =
        processor.logged log := by
    refine Processor.exists_logged_evaluate (fun called args text hm function hn => ?_) _ _ _
    exact Registry.exists_builtin (hf ▸ hn) (hw called args text hm)
  rw [ha]
  refine ⟨rfl, Studio.blocks_within _ _ _, ?_, ?_, ?_⟩
  · intro member store hm hne
    exact (Studio.shared_within hm _ store).trans (if_neg hne.symm)
  · exact ⟨_, Studio.processor?_within hp _, Processor.changesOnly_evaluate hown _ _ _ _, hreports⟩
  · intro other bystander hne ho
    obtain ⟨member, globals, hm, hg, hb⟩ := Studio.processor?_within_of_ne hne _ ho
    refine ⟨globals, hb, fun hw => ?_⟩
    obtain ⟨acting, hacting, rfl⟩ := Studio.exists_member hp
    obtain ⟨other, ho', rfl⟩ := Studio.exists_member ho
    obtain rfl : member = other := Option.some.inj (hm.symm.trans ho')
    obtain ⟨log, hl⟩ := hreports hw
    rw [hg, Studio.shared_within hacting, hl]
    split
    · next hs => exact congrArg session.studio.shared hs
    · rfl

def paired : Session := ⟨Studio.pair, [("t".toList, Studio.sharing.site.theme)]⟩

theorem mentionsNoWriter_url : Expression.MentionsNoWriter "url(demo.fg)" := by
  intro name args text hm
  rcases Expression.mentions_url hm with h | h
  · cases h
    decide
  · cases h

theorem evaluate_confined_url :
    let after := (Step.run (evaluate "left" "t" "url(demo.fg)" [] 0) paired).2
    paired.studio.processor? "left" = some (Processor.initial "left" []) ∧
      paired.studio.processor? "right" = some (Processor.initial "right" []) ∧
      after.themes = paired.themes ∧ after.studio.blocks = paired.studio.blocks ∧
      (∃ log, after.studio.processor? "left" = some ((Processor.initial "left" []).logged log)) ∧
      after.studio.processor? "right" = some (Processor.initial "right" []) := by
  have hl : paired.studio.processor? "left" = some (Processor.initial "left" []) := rfl
  have hr : paired.studio.processor? "right" = some (Processor.initial "right" []) := rfl
  have ht : Entries.get? "t" paired.themes = some Studio.sharing.site.theme := rfl
  have hc := evaluate_confined hl rfl ht "url(demo.fg)" [] 0
  -- The run itself is not to be computed.
  generalize (Step.run (evaluate "left" "t" "url(demo.fg)" [] 0) paired).2 = after at hc ⊢
  obtain ⟨hthemes, hb, -, ⟨changed, hc, -, hlog⟩, hother⟩ := hc
  obtain ⟨log, rfl⟩ := hlog mentionsNoWriter_url
  obtain ⟨globals, ho, hg⟩ := hother "right" _ (by decide) hr
  obtain rfl := hg mentionsNoWriter_url
  exact ⟨hl, hr, hthemes, hb, ⟨log, hc⟩, ho⟩

end Session

end Retheme
