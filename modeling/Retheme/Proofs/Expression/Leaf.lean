import Retheme.Proofs.Expression.Outcome
import Retheme.Proofs.Expression.RoundTrip
import Retheme.Proofs.Function.Result

/-!
# Data by its keys

A value of the theme data is reached by its keys, each in the map that the keys
before it lead to. An expression names it by the namespace and the keys with
points between them. As a marker of its own it may hold any names that do not
make it a call; as an argument it is a path only when its names are written in
letters, digits, low lines and hyphens.

Both forms give the same text. Where there is no value they differ: the marker
gives nothing, and the argument is what it says.
-/

namespace Retheme

-- ---------------------------------------------------------------------------
-- Values under keys
-- ---------------------------------------------------------------------------

/-- Keys lead from a value to a value in it, each from a map to what the map has under it. -/
inductive Value.LeadsTo : Value → List Text → Value → Prop
  | here {value : Value} : LeadsTo value [] value
  | field {fields : Entries Value} {key : Text} {keys : List Text} {inner value : Value}
      (h : Entries.get? key fields = some inner) (rest : LeadsTo inner keys value) :
      LeadsTo (.map fields) (key :: keys) value

namespace Theme

open Value (LeadsTo)

variable {value inner : Value} {keys : List Text}

theorem walk_of_leadsTo (h : LeadsTo value keys inner) : walk value keys = some inner := by
  induction h with
  | here => rfl
  | field h _ ih => simp only [walk, h, Option.bind_some, ih]

/-- Walking along keys finds what they lead to, and stops where there is no map or no such key. -/
theorem walk_eq_some_iff : walk value keys = some inner ↔ LeadsTo value keys inner := by
  refine ⟨fun h => ?_, walk_of_leadsTo⟩
  induction keys generalizing value with
  | nil =>
    cases h
    exact .here
  | cons key keys ih =>
    cases value with
    | map fields =>
      obtain ⟨next, hk, h⟩ := Option.bind_eq_some_iff.mp h
      exact .field hk (ih h)
    | _ => cases h

theorem walk_eq_none (h : ∀ inner, ¬ LeadsTo value keys inner) : walk value keys = none :=
  Option.eq_none_iff_forall_ne_some.mpr fun inner hw => h inner (walk_eq_some_iff.mp hw)

theorem resolve?_ns (theme : Theme) (keys : List Text) :
    theme.resolve? (theme.ns :: keys) = walk (.map theme.data) keys := by
  simp only [resolve?, if_true]

end Theme

namespace Expression

open Value (LeadsTo)

-- ---------------------------------------------------------------------------
-- Names of values
-- ---------------------------------------------------------------------------

/-- A namespace with keys, such that the points and the blanks around their names can be told from
the names, and the whole is no call. -/
structure Address where
  ns : Text
  keys : List Text
  keys_ne : keys ≠ []
  not_mem : ∀ name ∈ ns :: keys, '.' ∉ name ∧ '(' ∉ name
  strip_eq : (Text.join ['.'] (ns :: keys)).strip = Text.join ['.'] (ns :: keys)

namespace Address

def text (address : Address) : Text := Text.join ['.'] (address.ns :: address.keys)

def inTemplate (address : Address) : Text :=
  "printf('%1', ".toList ++ address.text ++ [')']

/-- The names are written as they have to be in a path among the arguments of a call. -/
structure IsPath (address : Address) : Prop where
  ns : isIdentifier address.ns = true
  keys : ∀ key ∈ address.keys, key ≠ [] ∧ ∀ c ∈ key, Text.isNameChar c = true

variable {functions : Registry} {theme : Theme} {source : Text} {position : Int}
  {work : Workspace} {address : Address} {value : Value} {result : Text}

-- ---------------------------------------------------------------------------
-- The address as a marker
-- ---------------------------------------------------------------------------

theorem callParts?_text (address : Address) : callParts? address.text = none := by
  refine callParts?_eq_none fun hm => ?_
  rcases Text.mem_join hm with hm | ⟨name, hn, hm⟩
  · exact absurd hm (by decide)
  · exact (address.not_mem name hn).2 hm

theorem split_text (address : Address) :
    Text.split '.' address.text = address.ns :: address.keys :=
  Text.split_join (List.cons_ne_nil _ _) fun name hn => (address.not_mem name hn).1

theorem parse_text (address : Address) :
    parse address.text = .ok (.path (address.ns :: address.keys) address.text) := by
  have hs : address.text.strip = address.text := address.strip_eq
  have hc : callParts? address.text.strip = none := by rw [hs, address.callParts?_text]
  rw [parse_of_callParts?_eq_none hc, hs, address.split_text]

theorem run_evaluate_text (hn : theme.ns = address.ns) :
    Step.run (evaluate functions ⟨address.text, theme, source, position⟩) work =
      (((Theme.walk (.map theme.data) address.keys).getD .null).declared?, work) := by
  rw [run_evaluate, led_path address.parse_text, ← hn, Theme.resolve?_ns]

-- ---------------------------------------------------------------------------
-- The address in a template
-- ---------------------------------------------------------------------------

theorem exists_dottedPath (h : address.IsPath) :
    ∃ dotted : DottedPath, dotted.segments = address.ns :: address.keys := by
  have hkeys : address.keys ∈ Set.range (List.map Name.text) := by
    rw [Set.range_list_map]
    exact fun key hk => ⟨⟨key, (h.keys key hk).1, (h.keys key hk).2⟩, rfl⟩
  obtain ⟨names, hnames⟩ := hkeys
  cases names with
  | nil => exact absurd hnames.symm address.keys_ne
  | cons second more => exact ⟨⟨⟨address.ns, h.ns⟩, second, more⟩, by rw [← hnames]; rfl⟩

def written (dotted : DottedPath) : Written :=
  let none : Blanks := ⟨[], Text.isBlank_of_mem_nil⟩
  .call ⟨"printf".toList, by decide⟩ none
    (.more none (.quoted ⟨'\'', "%1".toList, by decide, by decide⟩) none
      (.last ⟨[' '], Text.isBlank_of_mem_space⟩ (.path dotted) none))

theorem text_written {dotted : DottedPath} (h : dotted.segments = address.ns :: address.keys) :
    (written dotted).text = address.inTemplate := by
  have hd : dotted.text = address.text := by rw [DottedPath.text, h, text]
  have hopen : "printf('%1', ".toList =
      "printf".toList ++ '(' :: ("'%1'".toList ++ [',', ' ']) := by
    decide
  have hquoted : "'%1'".toList = '\'' :: "%1".toList ++ ['\''] := by decide
  unfold inTemplate written
  simp only [Written.text, WrittenList.text, hd, hopen, hquoted, List.append_assoc,
    List.cons_append, List.nil_append, List.append_nil]

theorem parse_inTemplate (h : address.IsPath) :
    parse address.inTemplate =
      .ok (.call "printf" [.literal "%1", .path (address.ns :: address.keys) address.text]
        address.inTemplate) := by
  obtain ⟨dotted, hd⟩ := exists_dottedPath h
  rw [← text_written hd, text, ← hd]
  exact Written.parse_text rfl

def argument (theme : Theme) (address : Address) : Value :=
  match Theme.walk (.map theme.data) address.keys with
  | none | some .null => .text address.text
  | some value => value

theorem argument_of_leadsTo (h : LeadsTo (.map theme.data) address.keys value)
    (hv : value ≠ .null) : argument theme address = value := by
  rw [argument, Theme.walk_of_leadsTo h]
  split
  · next hw => cases hw
  · next hw => exact absurd (Option.some.inj hw) hv
  · next hw => exact (Option.some.inj hw).symm

theorem argument_of_null
    (h : ∀ value, LeadsTo (.map theme.data) address.keys value → value = .null) :
    argument theme address = .text address.text := by
  rw [argument]
  split
  · rfl
  · rfl
  · next value hn hw => exact absurd (h value (Theme.walk_eq_some_iff.mp hw)) hn

theorem run_resolve_path (hn : theme.ns = address.ns) {expression : Text} :
    Step.run (resolve functions ⟨expression, theme, source, position⟩
      (.path (address.ns :: address.keys) address.text)) work =
        (.ok (argument theme address), work) := by
  rw [resolve, ← hn, Theme.resolve?_ns, argument]
  cases Theme.walk (.map theme.data) address.keys with
  | none => rfl
  | some value => cases value <;> rfl

theorem run_evaluate_inTemplate (hn : theme.ns = address.ns) (hp : address.IsPath)
    (hf : Entries.get? "printf" functions = some (.builtin .printf))
    (ht : (argument theme address).declared? = .ok (some result)) :
    Step.run (evaluate functions ⟨address.inTemplate, theme, source, position⟩) work =
      (.ok (some result), work) := by
  have hv : argument theme address ≠ .null := by
    intro hnull
    rw [hnull] at ht
    cases ht
  have hempty : Function.declaredOrEmpty (argument theme address) = .ok result := by
    rw [Function.declaredOrEmpty, ht]
    rfl
  have hrun := @run_evaluate_token functions ⟨address.inTemplate, theme, source, position⟩ work
    _ _ _ (parse_inTemplate hp) hf (run_resolve_path hn) hv
  rw [hrun, hempty]

end Address

variable {address : Address} {theme : Theme}

/-- A value is reached by its keys. The marker that names it gives its text, and nothing where the
keys lead nowhere; a template filled with it gives the same text, and the name where there is no
value. -/
theorem evaluate_address (hn : theme.ns = address.ns) (functions : Registry) (source : Text)
    (position : Int) (work : Workspace) :
    (∀ value, LeadsTo (.map theme.data) address.keys value →
        Step.run (evaluate functions ⟨address.text, theme, source, position⟩) work =
          (value.declared?, work)) ∧
      ((∀ value, ¬ LeadsTo (.map theme.data) address.keys value) →
        Step.run (evaluate functions ⟨address.text, theme, source, position⟩) work =
          (.ok none, work)) ∧
      (address.IsPath → Entries.get? "printf" functions = some (.builtin .printf) →
        (∀ result, (Step.run (evaluate functions ⟨address.text, theme, source, position⟩) work).1 =
              .ok (some result) →
            Step.run (evaluate functions ⟨address.inTemplate, theme, source, position⟩) work =
              (.ok (some result), work)) ∧
          ((∀ value, LeadsTo (.map theme.data) address.keys value → value = .null) →
            Step.run (evaluate functions ⟨address.inTemplate, theme, source, position⟩) work =
              (.ok (some address.text), work))) := by
  refine ⟨fun value h => ?_, fun h => ?_, fun hp hf => ⟨fun result hr => ?_, fun h => ?_⟩⟩
  · rw [Address.run_evaluate_text hn, Theme.walk_of_leadsTo h]
    rfl
  · rw [Address.run_evaluate_text hn, Theme.walk_eq_none h]
    rfl
  · refine Address.run_evaluate_inTemplate hn hp hf ?_
    rw [Address.run_evaluate_text hn] at hr
    cases hw : Theme.walk (.map theme.data) address.keys with
    | none =>
      rw [hw] at hr
      cases hr
    | some value =>
      rw [hw, Option.getD_some] at hr
      have hv : value ≠ .null := by
        rintro rfl
        cases hr
      rw [Address.argument_of_leadsTo (Theme.walk_eq_some_iff.mp hw) hv]
      exact hr
  · refine Address.run_evaluate_inTemplate hn hp hf ?_
    rw [Address.argument_of_null h]
    rfl

def sizeAddress : Address where
  ns := "demo"
  keys := ["size".toList, "2".toList]
  keys_ne := by decide
  not_mem := by decide
  strip_eq := by decide +kernel

def themeOfSize (size : Value) : Theme := ⟨"demo", "dark", [("size".toList, size)], none⟩

theorem evaluate_address_size :
    let scale : Theme := themeOfSize (.map [("1".toList, .int 4), ("2".toList, .text "8px")])
    let fixed : Theme := themeOfSize (.text "8px")
    scale.ns = sizeAddress.ns ∧ fixed.ns = sizeAddress.ns ∧
      Step.run (evaluate Registry.initial ⟨"demo.size.2", scale, [], 0⟩) .empty =
        (.ok (some "8px".toList), .empty) ∧
      Step.run (evaluate Registry.initial ⟨"printf('%1', demo.size.2)", scale, [], 0⟩) .empty =
        (.ok (some "8px".toList), .empty) ∧
      Step.run (evaluate Registry.initial ⟨"demo.size.2", fixed, [], 0⟩) .empty =
        (.ok none, .empty) ∧
      Step.run (evaluate Registry.initial ⟨"printf('%1', demo.size.2)", fixed, [], 0⟩) .empty =
        (.ok (some "demo.size.2".toList), .empty) := by
  intro scale fixed
  have hp : sizeAddress.IsPath := ⟨by decide, by decide +kernel⟩
  have hscale : scale.ns = sizeAddress.ns := rfl
  have hfixed : fixed.ns = sizeAddress.ns := rfl
  have hvalue : LeadsTo (.map scale.data) sizeAddress.keys (.text "8px") :=
    .field rfl (.field rfl .here)
  have hnone : ∀ value, ¬ LeadsTo (.map fixed.data) sizeAddress.keys value := by
    intro value h
    exact absurd (Theme.walk_of_leadsTo h) (Option.some_ne_none _).symm
  obtain ⟨hdirect, -, htemplate⟩ := evaluate_address hscale Registry.initial [] 0 .empty
  obtain ⟨-, hnothing, hname⟩ := evaluate_address hfixed Registry.initial [] 0 .empty
  have hresult := congrArg Prod.fst (hdirect _ hvalue)
  exact ⟨hscale, hfixed, hdirect _ hvalue, (htemplate hp rfl).1 _ hresult, hnothing hnone,
    (hname hp rfl).2 fun value h => absurd h (hnone value)⟩

end Expression

end Retheme
