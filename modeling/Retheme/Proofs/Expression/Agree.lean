import Retheme.Expression.Evaluate
import Retheme.Proofs.Function.Result

/-!
# What evaluation reads and keeps

Of a site evaluation reads the theme, the declared value and the rule around the
marker; of a workspace it reads everything but the reports. A property of
workspaces that no single write breaks is kept by every expression, whether its
evaluation fails or not.
-/

namespace Retheme

structure Site.Alike (site other : Site) : Prop where
  expression : site.expression = other.expression
  theme : site.theme = other.theme
  declaredValue : Sheet.declaredValue? site.source (Sheet.offset site.source site.position) =
    Sheet.declaredValue? other.source (Sheet.offset other.source other.position)
  ruleName : Sheet.ruleNameAt site.source (Sheet.offset site.source site.position) =
    Sheet.ruleNameAt other.source (Sheet.offset other.source other.position)

structure Site.Beside (site other : Site) : Prop where
  theme : site.theme = other.theme
  declaredValue : Sheet.declaredValue? site.source (Sheet.offset site.source site.position) =
    Sheet.declaredValue? other.source (Sheet.offset other.source other.position)

theorem Site.Alike.beside {site other : Site} (h : site.Alike other) : site.Beside other :=
  ⟨h.theme, h.declaredValue⟩

theorem Site.Alike.refl (site : Site) : site.Alike site := ⟨rfl, rfl, rfl, rfl⟩

def Registry.IsOwn (functions : Registry) : Prop :=
  ∀ name apply, Entries.get? name functions ≠ some (.custom apply)

theorem Entries.mem_of_get? {α : Type} {entries : Entries α} {key : Text} {value : α}
    (h : Entries.get? key entries = some value) : (key, value) ∈ entries := by
  induction entries with
  | nil => cases h
  | cons entry rest ih =>
    rw [Entries.get?] at h
    split at h
    · next hk =>
      cases h
      exact hk ▸ List.mem_cons_self
    · exact List.mem_cons_of_mem _ (ih h)

def Function.isOwn : Function → Bool
  | custom _ => false
  | _ => true

theorem Registry.initial_isOwn : Registry.initial.IsOwn := by
  intro name apply h
  have ha : Registry.initial.all (fun entry => entry.2.isOwn) = true := rfl
  exact absurd (List.all_eq_true.mp ha _ (Entries.mem_of_get? h)) (by simp [Function.isOwn])

namespace Workspace

/-- A property of workspaces that no write of an evaluation for a theme breaks, when every value
that is written meets a condition. -/
structure Stable (theme : Theme) (inv : Workspace → Prop) (post : Value → Prop) : Prop where
  result : ∀ value, value.IsTextOrNull → post value
  data : ∀ segments value, theme.resolve? segments = some value → post value
  localValue : ∀ work name value, inv work → Entries.get? name work.locals = some value → post value
  globalValue : ∀ work name value, inv work → Entries.get? name work.globals = some value →
    post value
  report : ∀ work log, inv work → inv { work with log }
  setLocal : ∀ work name value, inv work → post value →
    inv { work with locals := work.locals.assign name value }
  setGlobal : ∀ work name value, inv work → post value →
    inv { work with globals := work.globals.assign name value }
  register : ∀ work mode rule selector, inv work →
    inv { work with
      scopes := work.scopes.register theme.name rule (Scope.custom mode rule selector theme.name) }

theorem stable_true (theme : Theme) :
    Stable theme (fun _ => True) (fun _ => True) where
  result _ _ := trivial
  data _ _ _ := trivial
  localValue _ _ _ _ _ := trivial
  globalValue _ _ _ _ _ := trivial
  report _ _ _ := trivial
  setLocal _ _ _ _ _ := trivial
  setGlobal _ _ _ _ _ := trivial
  register _ _ _ _ _ := trivial

/-- The second workspace is the first one but for its reports, and the first one has a property. -/
def Like (inv : Workspace → Prop) (work other : Workspace) : Prop :=
  inv work ∧ ∃ log, other = { work with log }

variable {theme : Theme} {inv : Workspace → Prop} {post : Value → Prop} {site other : Site}
  {args : List Value}

open Step (Agree)

theorem Like.refl {work : Workspace} (h : inv work) : Like inv work work := ⟨h, work.log, rfl⟩

/-- Related workspaces have the same variables, whatever was reported, and what is read there and
in the data of a theme meets a condition. -/
structure Indifferent (theme : Theme) (rel : Workspace → Workspace → Prop) (post : Value → Prop) :
    Prop where
  result : ∀ value, value.IsTextOrNull → post value
  data : ∀ segments value, theme.resolve? segments = some value → post value
  found : ∀ name, Agree rel (fun found => ∀ value, found = some value → post value)
    (Step.read fun work => Variables.lookup? name work.locals work.globals)
    (Step.read fun work => Variables.lookup? name work.locals work.globals)
  report : ∀ work other log last, rel work other → rel { work with log } { other with log := last }

theorem Stable.indifferent (h : Stable theme inv post) : Indifferent theme (Like inv) post where
  result := h.result
  data := h.data
  found name := by
    refine Agree.read ?_
    rintro work other ⟨hi, log, rfl⟩
    refine ⟨rfl, fun value hv => ?_⟩
    rcases Option.or_eq_some_iff.mp hv with hv | ⟨-, hv⟩
    · exact h.localValue work name value hi hv
    · exact h.globalValue work name value hi hv
  report := by
    rintro work other log last ⟨hi, log', rfl⟩
    exact ⟨h.report _ _ hi, last, rfl⟩

theorem Indifferent.agree_report {rel : Workspace → Workspace → Prop} {α : Type} {goal : α → Prop}
    {step next : Report α} (h : Indifferent theme rel post)
    (hs : Agree Function.AnyLogs goal step next) :
    Agree rel goal (Workspace.report step) (Workspace.report next) :=
  hs.within (fun _ _ _ => trivial) fun work other log last hr _ => h.report work other log last hr

theorem Indifferent.agree_event {rel : Workspace → Workspace → Prop}
    (h : Indifferent theme rel post) (report other : Event) :
    Agree rel (fun _ => True) (event report) (event other) :=
  h.agree_report (Function.agree_event report other)

theorem agree_event (h : Stable theme inv post) (report other : Event) :
    Agree (Like inv) (fun _ => True) (event report) (event other) :=
  h.indifferent.agree_event report other

theorem agree_null (h : Stable theme inv post) :
    Agree (Like inv) post (pure Value.null) (pure Value.null) :=
  Agree.pure (h.result Value.null trivial)

theorem agree_ofExcept {α : Type} (result : Except Failure α) :
    Agree (Like inv) (fun _ => True) (Step.ofExcept result) (Step.ofExcept result) :=
  Agree.ofExcept fun _ _ => trivial

theorem agree_access (h : Stable theme inv post) {get : Workspace → Variables}
    {set : Variables → Workspace → Workspace}
    (hget : ∀ work other, Like inv work other → get work = get other ∧
      ∀ name value, Entries.get? name (get work) = some value → post value)
    (hset : ∀ work other name value, Like inv work other → post value →
      Like inv (set ((get work).assign name value) work) (set ((get other).assign name value) other))
    (ha : ∀ value ∈ args, post value) :
    Agree (Like inv) post (access get set args) (access get set args) := by
  rw [access.eq_def]
  split
  · next name =>
    refine (agree_ofExcept _).bind fun name _ => ?_
    have hread : Agree (Like inv)
        (fun vars => ∀ name value, Entries.get? name vars = some value → post value)
        (Step.read get) (Step.read get) := Agree.read hget
    refine hread.bind fun vars hv => Agree.pure ?_
    cases he : Entries.get? name vars with
    | none => exact h.result _ trivial
    | some value => exact hv name value he
  · next name value =>
    refine (agree_ofExcept _).bind fun name _ => ?_
    refine (Agree.update fun work other hl => ?_).bind fun _ _ => agree_null h
    exact hset work other name value hl (ha value (by simp))
  · exact agree_null h

theorem agree_setRuleScope (h : Stable site.theme inv post) (hs : site.Alike other) :
    Agree (Like inv) post (setRuleScope site args) (setRuleScope other args) := by
  rw [setRuleScope.eq_def, setRuleScope.eq_def, ← hs.ruleName, ← hs.theme]
  split
  · exact agree_null h
  · dsimp only
    split
    · exact agree_null h
    · refine (agree_ofExcept _).bind fun name _ => (agree_ofExcept _).bind fun selector _ => ?_
      split
      · exact (agree_event h _ _).bind fun _ _ => agree_null h
      · refine (agree_event h _ _).bind fun _ _ => (Agree.update ?_).bind fun _ _ => agree_null h
        rintro work other ⟨hi, log, rfl⟩
        exact ⟨h.register _ _ _ _ hi, log, rfl⟩

end Workspace

open Step (Agree) in
theorem Function.agree_apply {site other : Site} {inv : Workspace → Prop} {post : Value → Prop}
    {function : Function} {args : List Value} (h : Workspace.Stable site.theme inv post)
    (hs : site.Alike other) (hf : ∀ apply, function ≠ .custom apply)
    (ha : ∀ value ∈ args, post value) :
    Agree (Workspace.Like inv) post (function.apply site args) (function.apply other args) := by
  cases function with
  | builtin function =>
    exact h.indifferent.agree_report ((function.agree_apply args).mono h.result)
  | locals =>
    refine Workspace.agree_access h ?_ ?_ ha
    · rintro work other ⟨hi, log, rfl⟩
      exact ⟨rfl, fun name value => h.localValue work name value hi⟩
    · rintro work other name value ⟨hi, log, rfl⟩ hp
      exact ⟨h.setLocal work name value hi hp, log, rfl⟩
  | globals =>
    refine Workspace.agree_access h ?_ ?_ ha
    · rintro work other ⟨hi, log, rfl⟩
      exact ⟨rfl, fun name value => h.globalValue work name value hi⟩
    · rintro work other name value ⟨hi, log, rfl⟩ hp
      exact ⟨h.setGlobal work name value hi hp, log, rfl⟩
  | ruleScope => exact Workspace.agree_setRuleScope h hs
  | custom apply => exact absurd rfl (hf apply)

namespace Expression

variable {functions : Registry} {site other : Site} {inv : Workspace → Prop} {post : Value → Prop}
  {rel : Workspace → Workspace → Prop} {node : Node} {nodes : List Node}

open Step (Agree)
open Workspace (Indifferent Stable Like)

/-- The evaluation of an argument can come to a function at a call with a text. Calls of unknown
functions are texts, so that nothing inside of them is come to. -/
inductive Reaches (functions : Registry) (function : Function) (text : Text) : Node → Prop
  | here {name : Text} {args : List Node} (h : Entries.get? name functions = some function) :
      Reaches functions function text (.call name args text)
  | inside {name around : Text} {args : List Node} {outer : Function} {node : Node}
      (h : Entries.get? name functions = some outer) (hm : node ∈ args)
      (hr : Reaches functions function text node) :
      Reaches functions function text (.call name args around)

theorem Reaches.exists_get? {function : Function} {text : Text}
    (h : Reaches functions function text node) :
    ∃ name, Entries.get? name functions = some function := by
  induction h with
  | here h => exact ⟨_, h⟩
  | inside _ _ _ ih => exact ih

/-- Whatever functions the evaluation of an argument comes to, at two sites they do the same. -/
def Congruent (functions : Registry) (site other : Site) (rel : Workspace → Workspace → Prop)
    (post : Value → Prop) (node : Node) : Prop :=
  ∀ function text, Reaches functions function text node → ∀ args : List Value,
    (∀ value ∈ args, post value) →
    Agree rel post (function.apply { site with expression := text } args)
      (function.apply { other with expression := text } args)

theorem Congruent.argument {function : Function} {name text : Text}
    (h : Congruent functions site other rel post (.call name nodes text))
    (hn : Entries.get? name functions = some function) (hm : node ∈ nodes) :
    Congruent functions site other rel post node :=
  fun inner text hr => h inner text (.inside hn hm hr)

theorem congruent_of_isOwn (h : Stable site.theme inv post) (hs : site.Alike other)
    (hf : functions.IsOwn) (node : Node) :
    Congruent functions site other (Like inv) post node := by
  intro function text hr args ha
  obtain ⟨name, hn⟩ := hr.exists_get?
  refine Function.agree_apply h ?_ (fun apply he => hf name apply (he ▸ hn)) ha
  exact ⟨rfl, hs.theme, hs.declaredValue, hs.ruleName⟩

theorem congruent_self (functions : Registry) (site : Site) (node : Node) :
    Congruent functions site site (Like fun _ => True) (fun _ => True) node := by
  intro function text _ args _
  cases function with
  | custom apply => exact Workspace.agree_ofExcept _
  | builtin | locals | globals | ruleScope =>
    exact Function.agree_apply (Workspace.stable_true _) (.refl _) nofun fun _ _ => trivial

mutual
/-- An argument has the same value at two sites and from related workspaces when the functions in it
give the same. -/
theorem agree_resolve (h : Indifferent site.theme rel post) (hs : site.Beside other) :
    ∀ node : Node, Congruent functions site other rel post node →
      Agree rel post (resolve functions site node) (resolve functions other node)
  | .literal text, _ => by
    rw [resolve, resolve]
    exact Agree.pure (h.result (.text text) trivial)
  | .variable name text, _ => by
    rw [resolve, resolve, ← hs.declaredValue]
    refine (h.found name).bind fun found hv => ?_
    split
    · next value => exact Agree.pure (hv value rfl)
    · split
      · split
        · next value _ => exact Agree.pure (h.result (.text value) trivial)
        · exact Agree.pure (h.result .null trivial)
      · exact Agree.pure (h.result (.text text) trivial)
  | .path segments text, _ => by
    rw [resolve.eq_def, resolve.eq_def, ← hs.theme]
    dsimp only
    split
    · exact Agree.pure (h.result (.text text) trivial)
    · exact Agree.pure (h.result (.text text) trivial)
    · next value hv => exact Agree.pure (h.data segments _ hv)
  | .call name args text, hc => by
    rw [resolve.eq_def, resolve.eq_def]
    dsimp only
    split
    · exact Agree.pure (h.result (.text text) trivial)
    · next function hn =>
      refine (agree_resolveAll h hs args fun node hm => hc.argument hn hm).bind fun values hv => ?_
      exact hc function text (.here hn) values hv

theorem agree_resolveAll (h : Indifferent site.theme rel post) (hs : site.Beside other) :
    ∀ nodes : List Node, (∀ node ∈ nodes, Congruent functions site other rel post node) →
      Agree rel (fun values => ∀ value ∈ values, post value) (resolveAll functions site nodes)
        (resolveAll functions other nodes)
  | [], _ => by
    rw [resolveAll, resolveAll]
    exact Agree.pure nofun
  | node :: nodes, hc => by
    rw [resolveAll, resolveAll]
    refine (agree_resolve h hs node (hc node List.mem_cons_self)).bind fun value hv => ?_
    refine (agree_resolveAll h hs nodes fun other hm => hc other (List.mem_cons_of_mem _ hm)).bind
      fun values hr => Agree.pure ?_
    intro result hm
    rcases List.mem_cons.mp hm with rfl | hm
    · exact hv
    · exact hr result hm
end

end Expression

end Retheme
