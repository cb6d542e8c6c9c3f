import Retheme.Proofs.Expression.Frame
import Retheme.Proofs.Expression.Pure

/-!
# Calls in place of which their results stand

A call in a pure expression may be replaced by its result, written in quotes
(`evaluate_inlined`). The text around it is read as before, since quotes hide
whatever the result consists of. Evaluating the call only reports, so that what
stands around it has the same values with it and without it.
-/

namespace Retheme

open Step (Agree)

def Workspace.Reported (work state other : Workspace) : Prop :=
  (∃ log, state = { work with log }) ∧ ∃ log, other = { work with log }

theorem Workspace.Reported.refl (work : Workspace) : work.Reported work work :=
  ⟨⟨work.log, rfl⟩, ⟨work.log, rfl⟩⟩

theorem Workspace.indifferent_reported (theme : Theme) (work : Workspace) :
    Indifferent theme work.Reported (fun _ => True) where
  result _ _ := trivial
  data _ _ _ := trivial
  found name := by
    refine Agree.read ?_
    rintro _ _ ⟨⟨log, rfl⟩, ⟨last, rfl⟩⟩
    exact ⟨rfl, fun _ _ => trivial⟩
  report := by
    rintro _ _ log last ⟨⟨_, rfl⟩, ⟨_, rfl⟩⟩
    exact ⟨⟨log, rfl⟩, ⟨last, rfl⟩⟩

namespace Expression

variable {functions : Registry} {site other : Site} {work : Workspace} {name text : Text}
  {args : List Node} {node node' inner replacement : Node}

-- ---------------------------------------------------------------------------
-- Pure calls
-- ---------------------------------------------------------------------------

theorem agree_builtin (function : Builtin) (site other : Site) (args : List Value)
    (work : Workspace) :
    Agree work.Reported Value.IsTextOrNull (Function.apply (.builtin function) site args)
      (Function.apply (.builtin function) other args) :=
  (Workspace.indifferent_reported site.theme work).agree_report (function.agree_apply args)

theorem congruent_of_isPureNode (hp : isPureNode functions node = true) (site other : Site)
    (work : Workspace) : Congruent functions site other work.Reported (fun _ => True) node := by
  intro function text hr args _
  obtain ⟨own, rfl⟩ := hr.builtin hp
  exact (agree_builtin own _ _ args work).mono fun _ _ => trivial

theorem agree_resolve_of_isPureNode (hs : site.Beside other)
    (hp : isPureNode functions node = true) (work : Workspace) :
    Agree work.Reported (fun _ => True) (resolve functions site node)
      (resolve functions other node) :=
  agree_resolve (Workspace.indifferent_reported _ work) hs node
    (congruent_of_isPureNode hp site other work)

theorem agree_resolveAll_of_arePureNodes (hs : site.Beside other)
    (hp : arePureNodes functions args = true) (work : Workspace) :
    Agree work.Reported (fun _ => True) (resolveAll functions site args)
      (resolveAll functions other args) :=
  (agree_resolveAll (Workspace.indifferent_reported _ work) hs args fun _ hm =>
    congruent_of_isPureNode (isPureNode_of_mem hp hm) site other work).mono fun _ _ => trivial

theorem exists_builtin_of_isPureNode (hn : Entries.has name functions = true)
    (hp : isPureNode functions (.call name args text) = true) :
    ∃ own, Entries.get? name functions = some (.builtin own) ∧
      arePureNodes functions args = true := by
  rw [isPureNode.eq_def] at hp
  dsimp only at hp
  rw [Entries.has] at hn
  split at hp
  · next he =>
    rw [he] at hn
    cases hn
  · next own he => exact ⟨own, he, hp⟩
  · cases hp

theorem resolve_call {function : Function} (hn : Entries.get? name functions = some function) :
    resolve functions site (.call name args text) =
      resolveAll functions site args >>= function.apply { site with expression := text } := by
  rw [resolve.eq_def]
  simp only [hn]

theorem evaluate_call {function : Function}
    (h : parse site.expression = .ok (.call name args text))
    (hn : Entries.get? name functions = some function) :
    evaluate functions site = evaluateCall functions function site name args text >>=
      fun value => Step.ofExcept value.declared? := by
  simp only [evaluate, h, hn]

theorem resolve_of_evaluate {result : Text}
    (h : parse site.expression = .ok (.call name args text))
    (hp : isPureNode functions (.call name args text) = true)
    (he : (Step.run (evaluate functions site) work).1 = .ok (some result)) :
    (Step.run (resolve functions site (.call name args text)) work).1 = .ok (.text result) := by
  cases hn : Entries.get? name functions with
  | none =>
    simp only [evaluate, h, hn] at he
    cases he
  | some function =>
    obtain ⟨own, hown, hargs⟩ := exists_builtin_of_isPureNode (by rw [Entries.has, hn]; rfl) hp
    obtain rfl : function = .builtin own := Option.some.inj (hn.symm.trans hown)
    have hagree : Agree work.Reported Value.IsTextOrNull
        (resolve functions site (.call name args text))
        (resolve functions site (.call name args text)) := by
      rw [resolve_call hn]
      exact (agree_resolveAll_of_arePureNodes (Site.Alike.refl site).beside hargs work).bind
        fun values _ => agree_builtin own _ _ values work
    obtain ⟨-, -, hpost⟩ := hagree work work (.refl work)
    rw [evaluate_call h hn, evaluateCall, ← resolve_call hn, Step.run_bind, Step.run_orElse] at he
    cases hr : Step.run (resolve functions site (.call name args text)) work with
    | mk outcome after =>
      rw [hr] at he hpost
      cases outcome with
      | error => cases he
      | ok value =>
        have hv := hpost value rfl
        cases value <;> cases hv
        · cases he
        · cases he
          rfl

-- ---------------------------------------------------------------------------
-- One argument in place of another
-- ---------------------------------------------------------------------------

/-- Arguments that agree in one place, and are the same in all others, have the same values. -/
theorem agree_resolveAll_replaced (hs : site.Beside other) (front back : List Node)
    (hp : arePureNodes functions (front ++ node :: back) = true)
    (h : Agree work.Reported (fun _ => True) (resolve functions site node)
      (resolve functions other node')) :
    Agree work.Reported (fun _ => True) (resolveAll functions site (front ++ node :: back))
      (resolveAll functions other (front ++ node' :: back)) := by
  induction front with
  | nil =>
    rw [List.nil_append, arePureNodes, Bool.and_eq_true] at hp
    rw [List.nil_append, List.nil_append, resolveAll, resolveAll]
    refine h.bind fun _ _ => ?_
    exact (agree_resolveAll_of_arePureNodes hs hp.2 work).bind fun _ _ => Agree.pure trivial
  | cons first front ih =>
    rw [List.cons_append, arePureNodes, Bool.and_eq_true] at hp
    rw [List.cons_append, List.cons_append, resolveAll, resolveAll]
    refine (agree_resolve_of_isPureNode hs hp.1 work).bind fun _ _ => ?_
    exact (ih hp.2).bind fun _ _ => Agree.pure trivial

theorem Replaces.isPureNode (h : Replaces functions inner replacement node node')
    (hp : isPureNode functions node = true) : isPureNode functions inner = true := by
  induction h with
  | here => exact hp
  | inside hn _ ih =>
    obtain ⟨own, -, hargs⟩ := exists_builtin_of_isPureNode hn hp
    exact ih (isPureNode_of_mem hargs (by simp))

theorem Replaces.agree (h : Replaces functions inner replacement node node')
    (hp : Expression.isPureNode functions node = true) (hs : site.Beside other)
    (hi : Agree work.Reported (fun _ => True) (resolve functions site inner)
      (resolve functions other replacement)) :
    Agree work.Reported (fun _ => True) (resolve functions site node)
      (resolve functions other node') := by
  induction h with
  | here => exact hi
  | inside hn _ ih =>
    obtain ⟨own, hown, hargs⟩ := exists_builtin_of_isPureNode hn hp
    rw [resolve_call hown, resolve_call hown]
    have hnode := ih (isPureNode_of_mem hargs (by simp))
    refine (agree_resolveAll_replaced hs _ _ hargs hnode).bind fun values _ => ?_
    exact (agree_builtin own _ _ values work).mono fun _ _ => trivial

theorem evaluate_replaced {front back : List Node} {text' : Text}
    (h : parse site.expression = .ok (.call name (front ++ node :: back) text))
    (h' : parse other.expression = .ok (.call name (front ++ node' :: back) text'))
    (hn : Entries.has name functions = true)
    (hp : isPureNode functions (.call name (front ++ node :: back) text) = true)
    (hs : site.Beside other)
    (hnode : Agree work.Reported (fun _ => True) (resolve functions site node)
      (resolve functions other node')) :
    ∃ outcome, (Step.run (evaluate functions site) work).1 = .ok outcome ∧
      (Step.run (evaluate functions other) work).1 = .ok outcome := by
  obtain ⟨own, hown, hargs⟩ := exists_builtin_of_isPureNode hn hp
  have hcall : Agree work.Reported Value.IsTextOrNull
      (evaluateCall functions (.builtin own) site name (front ++ node :: back) text)
      (evaluateCall functions (.builtin own) other name (front ++ node' :: back) text') := by
    refine Agree.orElse ?_ ?_
    · exact (agree_resolveAll_replaced hs _ _ hargs hnode).bind fun values _ =>
        agree_builtin own _ _ values work
    · exact ((Workspace.indifferent_reported site.theme work).agree_event _ _).bind fun _ _ =>
        Agree.pure trivial
  obtain ⟨-, -, hpost⟩ := hcall work work (.refl work)
  have hsucceeds : Step.Succeeds (evaluate functions site) work := by
    rw [evaluate_call h hown]
    refine Step.succeeds_bind (succeeds_evaluateCall _ _ _ _) fun value after hr => ?_
    have hv := hpost value (congrArg Prod.fst hr)
    cases value <;> first | rfl | cases hv
  obtain ⟨outcome, houtcome⟩ := hsucceeds.run_eq
  have hevaluate : Agree work.Reported (fun _ => True) (evaluate functions site)
      (evaluate functions other) := by
    rw [evaluate_call h hown, evaluate_call h' hown]
    exact hcall.bind fun _ _ => Agree.ofExcept fun _ _ => trivial
  obtain ⟨hsame, -, -⟩ := hevaluate work work (.refl work)
  exact ⟨outcome, congrArg Prod.fst houtcome, hsame.symm.trans (congrArg Prod.fst houtcome)⟩

-- ---------------------------------------------------------------------------
-- A result in quotes
-- ---------------------------------------------------------------------------

theorem isSolid_of_callParts? {list : Text} {pieces : List Text}
    (hc : callParts? text = some (name, list)) (hs : splitArguments list = .ok pieces) :
    IsSolid text := by
  obtain ⟨head, gap, -, rfl, hp⟩ := exists_of_callParts? hc
  exact isSolid_call head gap hp (passes?_of_splitArguments hs).1

theorem strip_eq_of_callParts? {list : Text} (hc : callParts? text = some (name, list)) :
    text.strip = text := by
  obtain ⟨head, gap, -, rfl, -⟩ := exists_of_callParts? hc
  exact strip_call head gap list

theorem evaluate_malformed {e : Malformed} (h : parse site.expression = .error e) :
    (Step.run (evaluate functions site) work).1 = .ok none := by
  simp only [evaluate, h]
  rfl

theorem isSolid_of_evaluate {result : Text} (hc : (callParts? site.expression).isSome = true)
    (he : (Step.run (evaluate functions site) work).1 = .ok (some result)) :
    IsSolid site.expression ∧ ∃ name args,
      parse site.expression = .ok (.call name args site.expression) ∧
        parseArgument site.expression = .ok (.call name args site.expression) := by
  obtain ⟨⟨name, list⟩, hparts⟩ := Option.isSome_iff_exists.mp hc
  have hstrip := strip_eq_of_callParts? hparts
  have hparse := parse_of_callParts?_eq_some (hstrip.symm ▸ hparts)
  rw [hstrip] at hparse
  cases hargs : parseArguments list with
  | error e =>
    rw [hargs] at hparse
    rw [evaluate_malformed hparse] at he
    cases he
  | ok args =>
    rw [hargs] at hparse
    refine ⟨?_, name, args, hparse, by rw [parseArgument_eq hparts, hargs]; rfl⟩
    cases hs : splitArguments list with
    | error =>
      rw [parseArguments, hs] at hargs
      cases hargs
    | ok pieces => exact isSolid_of_callParts? hparts hs

theorem agree_literal {result : Text} (h : parse site.expression = .ok (.call name args text))
    (hp : isPureNode functions (.call name args text) = true)
    (he : (Step.run (evaluate functions site) work).1 = .ok (some result))
    {first : Site} (hs : site.Beside first) (second : Site) :
    Agree work.Reported (fun _ => True) (resolve functions first (.call name args text))
      (resolve functions second (.literal result)) := by
  rintro state other ⟨hstate, hother⟩
  obtain ⟨hvalue, ⟨-, hafter⟩, -⟩ :=
    agree_resolve_of_isPureNode hs hp work work state ⟨⟨work.log, rfl⟩, hstate⟩
  rw [resolve_of_evaluate h hp he] at hvalue
  rw [resolve]
  exact ⟨hvalue.symm, ⟨hafter, hother⟩, fun _ _ => trivial⟩

/-- Inside of calls of known functions a call has the same effect as its result in quotes. -/
theorem evaluate_enclosed {frame : Frame} {frames : List Frame} {literal : Quoted} {own : Site}
    (hnests : Nests functions (frame :: frames) own.expression)
    (hsite : site.expression.strip = enclosed (frame :: frames) own.expression)
    (hother : other.expression.strip =
      enclosed (frame :: frames) (Written.quoted literal).text)
    (hp : isPure functions site.expression = true) (hs : site.Beside other)
    (hown : own.Beside site) (hc : (callParts? own.expression).isSome = true)
    (he : (Step.run (evaluate functions own) work).1 = .ok (some literal.text)) :
    ∃ outcome, (Step.run (evaluate functions site) work).1 = .ok outcome ∧
      (Step.run (evaluate functions other) work).1 = .ok outcome := by
  have hliteral := (Written.quoted literal).isSolid
  obtain ⟨hcall, name, args, hparse, hargument⟩ := isSolid_of_evaluate hc he
  have hnests' := hnests.replace hcall hliteral
  rw [enclosed_cons] at hsite hother
  have hparsed := parse_of_callParts?_eq_some (hsite ▸ hnests.2.1.parts)
  have hparsed' := parse_of_callParts?_eq_some (hother ▸ hnests'.2.1.parts)
  have halike := hnests.2.2.parseArgument hcall hliteral hargument (parseArgument_quoted literal)
  obtain ⟨e, hfirst, hsecond⟩ | ⟨_, _, hfirst, hsecond, ⟨front, back, hreplaces⟩⟩ :=
    Frame.parsedAlike hnests.2.1 hnests'.2.1 (hnests.2.2.isSolid hcall).ne_nil
      (hnests'.2.2.isSolid hliteral).ne_nil halike
  · rw [hfirst] at hparsed
    rw [hsecond] at hparsed'
    exact ⟨none, evaluate_malformed hparsed, evaluate_malformed hparsed'⟩
  · rw [hfirst] at hparsed
    rw [hsecond] at hparsed'
    rw [isPure, hparsed] at hp
    obtain ⟨_, -, hargs⟩ := exists_builtin_of_isPureNode hnests.1 hp
    have hpure := isPureNode_of_mem hargs (List.mem_append_right front List.mem_cons_self)
    have hinner := agree_literal hparse (hreplaces.isPureNode hpure) he hown other
    exact evaluate_replaced hparsed hparsed' hnests.1 hp hs (hreplaces.agree hpure hs hinner)

/-- A call at a path of places in a pure expression may be replaced by its result in quotes. The
quotes stand where the call stood, and both expressions have the same outcome, for every theme, at
every position of every source and with all variables. -/
theorem evaluate_inlined {functions : Registry} {expression call : Text} {place : Nat}
    {places : List Nat} (hp : isPure functions expression = true)
    (ha : argumentAt? functions (place :: places) expression.strip = some call)
    (hc : (callParts? call).isSome = true) :
    ∃ before after, expression = before ++ call ++ after ∧
      ∀ (site : Site) (work : Workspace) (result : Text),
        (Step.run (evaluate functions { site with expression := call }) work).1 =
          .ok (some result) →
        ∀ quote, Nesting.isQuote quote = true → quote ∉ result →
          let quoted := quote :: result ++ [quote]
          let inlined := before ++ quoted ++ after
          argumentAt? functions (place :: places) inlined.strip = some quoted ∧
            ∃ outcome,
              (Step.run (evaluate functions { site with expression }) work).1 = .ok outcome ∧
              (Step.run (evaluate functions { site with expression := inlined }) work).1 =
                .ok outcome := by
  obtain ⟨frames, hplaces, hstrip, hnests⟩ := exists_nests ha
  obtain ⟨front, back, hends, hfront, hback⟩ := Text.exists_strip expression
  obtain ⟨before, after, henclosed⟩ := exists_enclosed frames
  have hwhole (text : Text) :
      front ++ before ++ text ++ (after ++ back) = front ++ enclosed frames text ++ back := by
    rw [henclosed]
    simp only [List.append_assoc]
  refine ⟨front ++ before, after ++ back, ?_, ?_⟩
  · rw [hwhole, hstrip, List.append_assoc, ← hends]
  intro site work result he quote hq hnot
  let literal : Quoted := ⟨quote, result, hq, hnot⟩
  have hliteral : IsSolid (quote :: result ++ [quote]) := (Written.quoted literal).isSolid
  have hnests' := hnests.replace (isSolid_of_evaluate hc he).1 hliteral
  have hinlined : (front ++ before ++ (quote :: result ++ [quote]) ++ (after ++ back)).strip =
      enclosed frames (quote :: result ++ [quote]) := by
    rw [hwhole]
    exact strip_around (hnests'.isSolid hliteral).strip_eq ⟨front, hfront⟩ ⟨back, hback⟩
  dsimp only
  refine ⟨by rw [hinlined, ← hplaces, hnests'.argumentAt? hliteral], ?_⟩
  cases frames with
  | nil => cases hplaces
  | cons frame frames =>
    have hbeside (one two : Text) :
        Site.Beside { site with expression := one } { site with expression := two } := ⟨rfl, rfl⟩
    exact @evaluate_enclosed _ { site with expression } { site with expression := _ } _ _ _ literal
      { site with expression := call } hnests hstrip.symm hinlined hp (hbeside _ _) (hbeside _ _)
      hc he

def listCall : Text := "printf('%1, %2', a, b)"

def nestedCall : Text := "url(printf('%1, %2', a, b))"

def listArguments : List Text := ["'%1, %2'", "a", "b"]

theorem callParts?_listCall :
    callParts? listCall = some ("printf".toList, "'%1, %2', a, b".toList) := by
  decide +kernel

theorem splitArguments_listCall : splitArguments "'%1, %2', a, b" = .ok listArguments := by
  decide +kernel

theorem parse_listCall :
    parse listCall = .ok (.call "printf" (listArguments.map leaf) listCall) :=
  parse_leaves callParts?_listCall splitArguments_listCall (by decide +kernel)

theorem isPure_nestedCall : isPure Registry.initial nestedCall = true := by
  have hargument :
      parseArgument listCall = .ok (.call "printf" (listArguments.map leaf) listCall) := by
    rw [parseArgument_of_call callParts?_listCall splitArguments_listCall,
      mapM_parseArgument_of_no_call (by decide +kernel)]
    rfl
  have hlist :
      parseArguments listCall = .ok [.call "printf" (listArguments.map leaf) listCall] := by
    have hs : splitArguments listCall = .ok [listCall] := by decide +kernel
    rw [parseArguments, hs]
    show [listCall].mapM parseArgument = _
    rw [List.mapM_cons, hargument]
    rfl
  have hparts : callParts? nestedCall.strip = some ("url".toList, listCall) := by decide +kernel
  rw [isPure, parse_of_callParts?_eq_some hparts, hlist]
  decide +kernel

/-- A comma in the result does not make it two arguments. -/
theorem evaluate_inlined_list :
    let site (expression : Text) : Site := ⟨expression, ⟨"demo", "dark", [], none⟩, [], 0⟩
    isPure Registry.initial nestedCall = true ∧
      argumentAt? Registry.initial [0] nestedCall.strip = some listCall ∧
      (callParts? listCall).isSome = true ∧
      ∃ before after, nestedCall = before ++ listCall ++ after ∧ ∃ outcome,
        (Step.run (evaluate .initial (site nestedCall)) .empty).1 = .ok outcome ∧
        (Step.run (evaluate .initial (site (before ++ "'a, b'" ++ after))) .empty).1 =
          .ok outcome := by
  intro site
  have ha : argumentAt? Registry.initial [0] nestedCall.strip = some listCall := by decide +kernel
  have he : (Step.run (evaluate .initial (site listCall)) .empty).1 = .ok (some "a, b".toList) := by
    have hn : Entries.get? "printf" Registry.initial = some (.builtin .printf) := rfl
    rw [@evaluate_call _ (site listCall) _ _ _ _ parse_listCall hn]
    decide +kernel
  have hc : (callParts? listCall).isSome = true := by rw [callParts?_listCall]; rfl
  obtain ⟨before, after, heq, h⟩ := evaluate_inlined isPure_nestedCall ha hc
  obtain ⟨-, houtcome⟩ := h (site nestedCall) .empty "a, b" he '\'' rfl (by decide)
  exact ⟨isPure_nestedCall, ha, hc, before, after, heq, houtcome⟩

end Expression

end Retheme
