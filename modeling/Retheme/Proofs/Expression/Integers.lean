import Retheme.Proofs.Expression.Leaf
import Retheme.Proofs.Number.Exactness

/-!
# Integers on their way into a declaration

An integer of the theme data is asked for by its path, filled into a template,
or kept in a variable that is read later, by a call or by its name among the
arguments of one. Every way ends in the text of a number, so each gives the
digits of the integer exactly when the integer is short
(`integer_given_iff`).
-/

namespace Retheme

inductive VariableStore where
  | own
  | shared

namespace VariableStore

open Expression (Identifier)

def identifier : VariableStore → Identifier
  | own => ⟨"local".toList, by decide⟩
  | shared => ⟨"global".toList, by decide⟩

def function : VariableStore → Function
  | own => .locals
  | shared => .globals

def contents : VariableStore → Workspace → Variables
  | own, work => work.locals
  | shared, work => work.globals

def assign (name : Text) (value : Value) (work : Workspace) : VariableStore → Workspace
  | own => { work with locals := work.locals.assign name value }
  | shared => { work with globals := work.globals.assign name value }

variable {store : VariableStore} {name : Text} {value : Value} {site : Site} {work : Workspace}

theorem get?_assign (hr : name ≠ Variables.reserved) :
    Entries.get? name (store.contents (store.assign name value work)) = some value := by
  cases store <;> simp [contents, assign, hr]

theorem run_set : Step.run (store.function.apply site [.text name, value]) work =
    (.ok .null, store.assign name value work) := by
  cases store <;> rfl

theorem run_get (h : Entries.get? name (store.contents work) = some value) :
    Step.run (store.function.apply site [.text name]) work = (.ok value, work) := by
  have hrun : Step.run (store.function.apply site [.text name]) work =
      (.ok ((Entries.get? name (store.contents work)).getD (.text [])), work) := by
    cases store <;> rfl
  rw [hrun, h]
  rfl

theorem lookup?_assign (hr : name ≠ Variables.reserved)
    (hs : store = .shared → Entries.get? name work.locals = none) :
    Variables.lookup? name (store.assign name value work).locals
      (store.assign name value work).globals = some value := by
  cases store with
  | own => simp [Variables.lookup?, assign, hr]
  | shared => simp [Variables.lookup?, assign, hr, hs rfl]

end VariableStore

structure Registry.HasOwn (functions : Registry) : Prop where
  printf : Entries.get? "printf" functions = some (.builtin .printf)
  store : ∀ store : VariableStore, Entries.get? store.identifier.text functions = some store.function

theorem Registry.initial_hasOwn : initial.HasOwn where
  printf := rfl
  store store := by cases store <;> rfl

namespace Expression

open Value (LeadsTo)

variable {functions : Registry} {site : Site} {theme : Theme} {source : Text} {position : Int}
  {work : Workspace} {address : Address} {value : Value} {store : VariableStore} {name : Quoted}

-- ---------------------------------------------------------------------------
-- Variables in expressions
-- ---------------------------------------------------------------------------

def noBlanks : Blanks := ⟨[], Text.isBlank_of_mem_nil⟩

def oneBlank : Blanks := ⟨[' '], Text.isBlank_of_mem_space⟩

def pairOf (function : Identifier) (name : Quoted) (arg : Written) : Written :=
  .call function noBlanks (.more noBlanks (.quoted name) noBlanks (.last oneBlank arg noBlanks))

theorem text_pairOf (function : Identifier) (name : Quoted) (arg : Written) :
    (pairOf function name arg).text =
      function.text ++ '(' :: (Written.quoted name).text ++ ", " ++ arg.text ++ ")" := by
  have hcomma : (", " : Text) = [',', ' '] := rfl
  simp [pairOf, Written.text, WrittenList.text, noBlanks, oneBlank, hcomma]

def setting (store : VariableStore) (name : Quoted) (address : Address) : Text :=
  store.identifier.text ++ '(' :: (Written.quoted name).text ++ ", " ++ address.text ++ ")"

def reading (store : VariableStore) (name : Quoted) : Text :=
  store.identifier.text ++ '(' :: (Written.quoted name).text ++ ")"

def referring (name : Name) : Text := "printf('%1', ".toList ++ name.asVariable ++ ")"

theorem parse_setting (h : address.IsPath) :
    parse (setting store name address) =
      .ok (.call store.identifier.text
        [.literal name.text, .path (address.ns :: address.keys) address.text]
        (setting store name address)) := by
  obtain ⟨dotted, hd⟩ := Address.exists_dottedPath h
  have hdotted : (Written.path dotted).text = address.text := by
    rw [Written.text, DottedPath.text, hd, Address.text]
  have htext : (pairOf store.identifier name (.path dotted)).text = setting store name address := by
    rw [text_pairOf, hdotted, setting]
  have hnodes : (WrittenList.more noBlanks (.quoted name) noBlanks
      (.last oneBlank (.path dotted) noBlanks)).nodes =
        [.literal name.text, .path (address.ns :: address.keys) address.text] := by
    rw [← hdotted, ← hd]
    rfl
  rw [← htext, ← hnodes]
  exact Written.parse_text rfl

theorem parse_reading (store : VariableStore) (name : Quoted) :
    parse (reading store name) =
      .ok (.call store.identifier.text [.literal name.text] (reading store name)) := by
  have htext : (Written.call store.identifier noBlanks
      (.last noBlanks (.quoted name) noBlanks)).text = reading store name := by
    simp [reading, Written.text, WrittenList.text, noBlanks]
  rw [← htext]
  exact Written.parse_text rfl

theorem parse_referring (name : Name) :
    parse (referring name) =
      .ok (.call "printf" [.literal "%1", .variable name.text name.asVariable]
        (referring name)) := by
  have htext : (pairOf ⟨"printf".toList, by decide⟩ ⟨'\'', "%1".toList, by decide, by decide⟩
      (.reference name)).text = referring name := by
    rw [text_pairOf]
    rfl
  rw [← htext]
  exact Written.parse_text rfl

theorem run_setting (hn : theme.ns = address.ns) (hp : address.IsPath) (hf : functions.HasOwn)
    (h : LeadsTo (.map theme.data) address.keys value) (hv : value ≠ .null) :
    Step.run (evaluate functions ⟨setting store name address, theme, source, position⟩) work =
      (.ok none, store.assign name.text value work) := by
  have hargs : Step.run (resolveAll functions
      ⟨setting store name address, theme, source, position⟩
      [.literal name.text, .path (address.ns :: address.keys) address.text]) work =
        (.ok [.text name.text, value], work) := by
    simp only [resolveAll, Step.run_bind, Address.run_resolve_path hn,
      Address.argument_of_leadsTo h hv]
    rfl
  simp only [evaluate, parse_setting hp, hf.store, evaluateCall, Step.run_bind, Step.run_orElse,
    hargs, VariableStore.run_set]
  rfl

theorem run_reading (hf : functions.HasOwn)
    (h : Entries.get? name.text (store.contents work) = some value) :
    Step.run (evaluate functions ⟨reading store name, theme, source, position⟩) work =
      (value.declared?, work) := by
  have hargs : Step.run (resolveAll functions ⟨reading store name, theme, source, position⟩
      [.literal name.text]) work = (.ok [.text name.text], work) := by
    simp only [resolveAll, resolve, Step.run_bind, Step.run_pure]
  simp only [evaluate, parse_reading, hf.store, evaluateCall, Step.run_bind, Step.run_orElse, hargs,
    VariableStore.run_get h]
  rfl

theorem run_referring {name : Name} (hf : functions.HasOwn)
    (h : Variables.lookup? name.text work.locals work.globals = some value) (hv : value ≠ .null) :
    (Step.run (evaluate functions ⟨referring name, theme, source, position⟩) work).1 =
      .ok (Function.declaredOrEmpty value).toOption := by
  have hr : Step.run (resolve functions ⟨referring name, theme, source, position⟩
      (.variable name.text name.asVariable)) work = (.ok value, work) := by
    simp only [resolve, Step.run_bind, Step.run_read, h, Step.run_pure]
  have hrun := @run_evaluate_token functions ⟨referring name, theme, source, position⟩ work _ _ _
    (parse_referring name) hf.printf hr hv
  rw [hrun]
  cases Function.declaredOrEmpty value <;> rfl

-- ---------------------------------------------------------------------------
-- Integers
-- ---------------------------------------------------------------------------

def Gives (functions : Registry) (site : Site) (n : Int) (work : Workspace) : Prop :=
  ∃ text, (Step.run (evaluate functions site) work).1 = .ok (some text) ∧ Integer.IsNumeral text n

variable {n : Int}

theorem gives_iff_of_declared
    (h : (Step.run (evaluate functions site) work).1 = (Value.int n).declared?) :
    Gives functions site n work ↔ Binary64.IsShort n.natAbs := by
  rw [← Number.text_int_iff, Gives, h, Value.declared?]
  cases (Number.int n).text <;> simp [Except.map]

theorem gives_iff_of_filled
    (h : (Step.run (evaluate functions site) work).1 =
      .ok (Function.declaredOrEmpty (.int n)).toOption) :
    Gives functions site n work ↔ Binary64.IsShort n.natAbs := by
  rw [← Number.text_int_iff, Gives, h, Function.declaredOrEmpty, Value.declared?]
  cases (Number.int n).text <;> simp [Except.map, Except.toOption]

/-- An integer of the theme data has its digits as its text exactly when it is short: when it is
asked for by its path, filled into a template, or kept in a variable under a name that can be set,
and read from there, wherever that is. -/
theorem integer_given_iff {theme : Theme} {address : Address} {n : Int} {functions : Registry}
    (hn : theme.ns = address.ns) (h : LeadsTo (.map theme.data) address.keys (.int n))
    (hf : functions.HasOwn) (source : Text) (position : Int) (work : Workspace) :
    (Gives functions ⟨address.text, theme, source, position⟩ n work ↔
      Binary64.IsShort n.natAbs) ∧
    (address.IsPath →
      (Gives functions ⟨address.inTemplate, theme, source, position⟩ n work ↔
        Binary64.IsShort n.natAbs) ∧
      ∀ (store : VariableStore) (name : Quoted), name.text ≠ Variables.reserved →
        ∃ kept,
          Step.run (evaluate functions ⟨setting store name address, theme, source, position⟩)
            work = (.ok none, kept) ∧
          ∀ (theme : Theme) (source : Text) (position : Int),
            (Gives functions ⟨reading store name, theme, source, position⟩ n kept ↔
              Binary64.IsShort n.natAbs) ∧
            ∀ reference : Name, reference.text = name.text →
              (store = .shared → Entries.get? name.text work.locals = none) →
              (Gives functions ⟨referring reference, theme, source, position⟩ n kept ↔
                Binary64.IsShort n.natAbs)) := by
  have hv : Value.int n ≠ .null := nofun
  constructor
  · refine gives_iff_of_declared ?_
    rw [Address.run_evaluate_text hn, Theme.walk_of_leadsTo h]
    rfl
  · intro hp
    constructor
    · refine gives_iff_of_filled ?_
      have hr := @Address.run_resolve_path functions theme source position work address hn
        address.inTemplate
      rw [Address.argument_of_leadsTo h hv] at hr
      have hrun := @run_evaluate_token functions ⟨address.inTemplate, theme, source, position⟩ work
        _ _ _ (Address.parse_inTemplate hp) hf.printf hr hv
      rw [hrun]
      cases Function.declaredOrEmpty (.int n) <;> rfl
    · intro store name hr
      refine ⟨_, run_setting hn hp hf h hv, fun theme source position => ⟨?_, ?_⟩⟩
      · refine gives_iff_of_declared ?_
        rw [run_reading hf (VariableStore.get?_assign hr)]
      · intro reference hname hs
        refine gives_iff_of_filled (run_referring hf ?_ hv)
        rw [hname]
        exact VariableStore.lookup?_assign hr hs

def layerAddress : Address where
  ns := "demo"
  keys := ["layer".toList]
  keys_ne := by decide
  not_mem := by decide
  strip_eq := by decide +kernel

def themeOfLayer (layer : Int) : Theme := ⟨"demo", "dark", [("layer".toList, .int layer)], none⟩

theorem leadsTo_layer (layer : Int) :
    LeadsTo (.map (themeOfLayer layer).data) layerAddress.keys (.int layer) :=
  .field rfl .here

theorem isPath_layer : layerAddress.IsPath where
  ns := by decide
  keys key hk := by
    obtain rfl := List.mem_singleton.mp hk
    exact ⟨by decide, List.all_eq_true.mp (by decide +kernel)⟩

/-- An integer of fifty-four binary digits, the last one a zero. -/
theorem integer_given_iff_layer :
    let layer : Int := -9007199254740994
    let theme := themeOfLayer layer
    theme.ns = layerAddress.ns ∧ LeadsTo (.map theme.data) layerAddress.keys (.int layer) ∧
      Registry.initial.HasOwn ∧ layerAddress.IsPath ∧
      Gives .initial ⟨"demo.layer", theme, [], 0⟩ layer .empty ∧
      Gives .initial ⟨"printf('%1', demo.layer)", theme, [], 0⟩ layer .empty ∧
      ∃ kept,
        Step.run (evaluate .initial ⟨"global('top', demo.layer)", theme, [], 0⟩) .empty =
          (.ok none, kept) ∧
        Gives .initial ⟨"global('top')", theme, [], 0⟩ layer kept ∧
        Gives .initial ⟨"printf('%1', %top%)", theme, [], 0⟩ layer kept := by
  intro layer theme
  have hshort : Binary64.IsShort layer.natAbs :=
    ⟨4503599627370497, 1, by norm_num [layer], by norm_num, by norm_num⟩
  let name : Quoted := ⟨'\'', "top".toList, by decide, by decide⟩
  let reference : Name :=
    ⟨"top".toList, by decide, List.all_eq_true.mp (by decide +kernel)⟩
  obtain ⟨hmarker, harguments⟩ := @integer_given_iff theme layerAddress layer .initial rfl
    (leadsTo_layer layer) Registry.initial_hasOwn [] 0 .empty
  obtain ⟨htemplate, hkept⟩ := harguments isPath_layer
  obtain ⟨kept, hset, hread⟩ := hkept .shared name (by decide)
  obtain ⟨hcall, hreference⟩ := hread theme [] 0
  exact ⟨rfl, leadsTo_layer layer, Registry.initial_hasOwn, isPath_layer, hmarker.mpr hshort,
    htemplate.mpr hshort, kept, hset, hcall.mpr hshort,
    (hreference reference rfl fun _ => rfl).mpr hshort⟩

/-- The last binary digit of an integer of fifty-four is lost, and an integer beyond the doubles
fails the evaluation of its path. -/
theorem not_integer_given_layer :
    let odd : Int := 9007199254740993
    let beyond : Int := 2 ^ 1024
    Step.run (evaluate .initial ⟨"demo.layer", themeOfLayer odd, [], 0⟩) .empty =
        (.ok (some "9007199254740992".toList), .empty) ∧
      ¬ Gives .initial ⟨"demo.layer", themeOfLayer odd, [], 0⟩ odd .empty ∧
      Step.run (evaluate .initial ⟨"demo.layer", themeOfLayer beyond, [], 0⟩) .empty =
        (.error .tooLarge, .empty) := by
  intro odd beyond
  have hrun (layer : Int) :
      Step.run (evaluate .initial ⟨"demo.layer", themeOfLayer layer, [], 0⟩) .empty =
        ((Value.int layer).declared?, .empty) := by
    have h := @Address.run_evaluate_text .initial (themeOfLayer layer) [] 0 .empty layerAddress rfl
    rwa [Theme.walk_of_leadsTo (leadsTo_layer layer)] at h
  have hodd : (Value.int odd).declared? = .ok (some "9007199254740992".toList) := by
    have hlt : odd.natAbs < Binary64.range :=
      Nat.lt_of_succ_lt (@Binary64.IsShort.lt_range 9007199254740994
        ⟨4503599627370497, 1, by norm_num, by norm_num, by norm_num⟩)
    have hheld : Number.held odd = 9007199254740992 := by decide +kernel
    have htext : Integer.text 9007199254740992 = "9007199254740992".toList := by decide +kernel
    rw [Value.declared?, Number.text_int, if_pos hlt, hheld, htext]
    rfl
  have hbeyond : (Value.int beyond).declared? = .error .tooLarge := by
    have hle : ∀ top low : Nat, 2 ^ top - 2 ^ low ≤ ((2 : Int) ^ top).natAbs := fun top low => by
      rw [Int.natAbs_pow]
      exact Nat.sub_le _ _
    have hrange : ¬ beyond.natAbs < Binary64.range := Nat.not_lt.mpr (hle 1024 970)
    rw [Value.declared?, Number.text_int, if_neg hrange]
    rfl
  refine ⟨by rw [hrun, hodd], ?_, by rw [hrun, hbeyond]⟩
  rw [gives_iff_of_declared (by rw [hrun]), Binary64.isShort_iff]
  rintro ⟨-, h⟩
  revert h
  decide +kernel

end Expression

end Retheme
