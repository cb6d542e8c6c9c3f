import Retheme.Proofs.Function.Inversion
import Retheme.Proofs.Value.Writing

/-!
# Values without a text as arguments

Nothing and a map have no text in a declaration. Where the first argument is
nothing, every built-in function gives nothing. Where it is a map, five of them
give nothing or fail; the other three show the map, or the word for nothing, in
the text that they give. `Withholds` says when a function gives nothing for a
map, and `Renders` when it gives a text; a call that does neither fails.
-/

namespace Retheme

-- ---------------------------------------------------------------------------
-- Maps as values and as colours
-- ---------------------------------------------------------------------------

namespace Value

variable {value : Value} {fields : List (Text × Value)}

theorem declared?_eq_none_iff :
    value.declared? = .ok none ↔ value = .null ∨ ∃ fields, value = .map fields := by
  cases value with
  | null => exact iff_of_true rfl (.inl rfl)
  | map fields => exact iff_of_true rfl (.inr ⟨fields, rfl⟩)
  | bool b => simp [declared?]
  | text s => simp [declared?, shown, Except.map]
  | number n =>
    refine iff_of_false ?_ (by simp)
    rw [declared?]
    cases n.text <;> simp [Except.map]
  | list items =>
    refine iff_of_false ?_ (by simp)
    rw [declared?.eq_def]
    dsimp only
    cases (list items).shown <;> simp [Except.map]

theorem shown_map (fields : List (Text × Value)) :
    (map fields).shown =
      if (map fields).hasLongInteger then .error .tooManyDigits else .ok (map fields).nested := rfl

theorem strip_nested_map (fields : List (Text × Value)) :
    (map fields).nested.strip = (map fields).nested := by
  rw [nested]
  refine Text.trim_eq_self ?_ ?_
  · rintro c ⟨⟩
    decide
  · intro c hc
    obtain rfl : '}' = c := by simpa [List.getLast?_cons] using hc
    decide

end Value

theorem Color.read?_brace (text : Text) : read? ('{' :: text) = .ok none := by
  have hbrace : '{' ∈ '{' :: text := List.mem_cons_self
  rw [read?.eq_def, named?_eq_none hbrace rfl]
  rfl

namespace Function

variable {args : List Value} {fields : List (Text × Value)}

theorem run_colorOf_map (fields : List (Text × Value)) (log : List Event) :
    Step.run (colorOf Color.read? (.map fields)) log =
      if (Value.map fields).hasLongInteger then (.error .tooManyDigits, log)
      else (.ok none, log ++ [.notAColor (Value.map fields).nested]) := by
  have hv : Value.map fields ≠ .null := nofun
  have hread : Color.read? (Value.map fields).nested = .ok none := Color.read?_brace _
  split
  · next h =>
    rw [colorOf_eq hv, Value.shown_map, if_pos h]
    rfl
  · next h =>
    have hs : (Value.map fields).shown = .ok (Value.map fields).nested := by
      rw [Value.shown_map, if_neg h]
    rw [run_colorOf hv hs, Value.strip_nested_map, hread]
    rfl

-- ---------------------------------------------------------------------------
-- Functions that withhold a map
-- ---------------------------------------------------------------------------

theorem toPx_map (h : argument args 0 = .map fields) : toPx args = .ok .null := by
  rw [toPx, h]
  rfl

theorem toRem_map (h : argument args 0 = .map fields) : toRem args = .ok .null := by
  rw [toRem, h]
  rfl

theorem invert_map (h : argument args 0 = .map fields) (log : List Event) :
    (Step.run (invert Color.read? args) log).1 =
      if (Value.map fields).hasLongInteger then .error .tooManyDigits else .ok .null := by
  rw [invert, h, Step.run_bind, run_colorOf_map]
  cases (Value.map fields).hasLongInteger <;> rfl

theorem opacify_map (h : argument args 0 = .map fields) (log : List Event) :
    (Step.run (opacify Color.read? args) log).1 =
      if (Value.map fields).hasLongInteger then .error .tooManyDigits
      else (argument args 1).leadingNumber?.map fun _ => .null := by
  rw [opacify, h]
  dsimp only
  rw [Step.run_bind, run_colorOf_map]
  cases (Value.map fields).hasLongInteger with
  | true => rfl
  | false =>
    rw [if_neg Bool.false_ne_true, if_neg Bool.false_ne_true]
    dsimp only
    rw [Step.run_bind, Step.run_ofExcept]
    cases (argument args 1).leadingNumber? <;> rfl

theorem opacify_map_null_iff (h : argument args 0 = .map fields) (log : List Event) :
    (Step.run (opacify Color.read? args) log).1 = .ok .null ↔
      ¬ (Value.map fields).HoldsLong ∧ (argument args 1).leadingNumber?.isOk = true := by
  rw [opacify_map h, ← Value.hasLongInteger_iff]
  cases (Value.map fields).hasLongInteger with
  | true => simp
  | false => cases (argument args 1).leadingNumber? <;> simp [Except.map, Except.isOk, Except.toBool]

theorem tint_map (h : argument args 0 = .map fields) (log : List Event) :
    (Step.run (tint Color.read? args) log).1 =
      if (argument args 1).isNull then .ok .null
      else if (Value.map fields).hasLongInteger then .error .tooManyDigits
      else (Step.run (colorOf Color.read? (argument args 1))
        (log ++ [.notAColor (Value.map fields).nested])).1.map fun _ => .null := by
  rw [tint, h]
  cases (argument args 1).isNull with
  | true => rfl
  | false =>
    rw [if_neg (by simp [Value.isNull]), if_neg Bool.false_ne_true, Step.run_bind, run_colorOf_map]
    cases (Value.map fields).hasLongInteger with
    | true => rfl
    | false =>
      rw [if_neg Bool.false_ne_true, if_neg Bool.false_ne_true]
      dsimp only
      rw [Step.run_bind]
      rcases Step.run (colorOf Color.read? (argument args 1)) _ with ⟨_ | _ | _, _⟩ <;> rfl

def IsColorOrNone (value : Value) : Prop :=
  ∃ text, value.shown = .ok text ∧ (Color.read? text.strip).isOk = true

theorem colorOf_isOk_iff {value : Value} (hv : value ≠ .null) (log : List Event) :
    (Step.run (colorOf Color.read? value) log).1.isOk = true ↔ IsColorOrNone value := by
  cases hs : value.shown with
  | error failure =>
    rw [colorOf_eq hv, hs]
    refine iff_of_false nofun ?_
    rintro ⟨text, ht, -⟩
    cases hs.symm.trans ht
  | ok shown =>
    have hcolor : IsColorOrNone value ↔ (Color.read? shown.strip).isOk = true := by
      simp [IsColorOrNone, hs]
    rw [run_colorOf hv hs, hcolor]
    cases hstrip : shown.strip with
    | nil => exact iff_of_true rfl (by decide +kernel)
    | cons c rest =>
      rw [if_neg (by simp)]
      rcases Color.read? (c :: rest) with failure | _ | color <;> rfl

theorem tint_map_null_iff (h : argument args 0 = .map fields) (log : List Event) :
    (Step.run (tint Color.read? args) log).1 = .ok .null ↔
      argument args 1 = .null ∨
        ¬ (Value.map fields).HoldsLong ∧ IsColorOrNone (argument args 1) := by
  rw [tint_map h]
  by_cases hn : argument args 1 = .null
  · rw [hn]
    exact iff_of_true rfl (.inl rfl)
  · have hnull : (argument args 1).isNull = false := by
      cases harg : argument args 1 <;> first | rfl | exact absurd harg hn
    rw [hnull, if_neg Bool.false_ne_true, ← Value.hasLongInteger_iff]
    cases (Value.map fields).hasLongInteger with
    | true => simp [hn]
    | false =>
      rw [← colorOf_isOk_iff hn (log ++ [.notAColor (Value.map fields).nested])]
      rcases Step.run (colorOf Color.read? (argument args 1)) _ with ⟨_ | _, _⟩ <;>
        simp [Except.map, Except.isOk, Except.toBool, hn]

-- ---------------------------------------------------------------------------
-- Functions that show a map
-- ---------------------------------------------------------------------------

theorem url_map (h : argument args 0 = .map fields) : url args = .ok (.text "url(None)") := by
  rw [url, h]
  rfl

section Failures

variable {α β : Type} {items : List α}

theorem isOk_bind_iff {result : Except Failure α} {next : α → Except Failure β} :
    (result >>= next).isOk = true ↔ ∃ value, result = .ok value ∧ (next value).isOk = true := by
  cases result with
  | error failure => exact iff_of_false nofun nofun
  | ok value => exact ⟨fun h => ⟨value, rfl, h⟩, fun ⟨_, he, h⟩ => Except.ok.inj he ▸ h⟩

theorem isOk_iff_exists {result : Except Failure α} :
    result.isOk = true ↔ ∃ value, result = .ok value := by
  cases result with
  | error failure => exact iff_of_false nofun nofun
  | ok value => exact iff_of_true rfl ⟨value, rfl⟩

theorem mapM_isOk_iff {f : α → Except Failure β} :
    (items.mapM f).isOk = true ↔ ∀ item ∈ items, (f item).isOk = true := by
  induction items with
  | nil => exact iff_of_true rfl (List.forall_mem_nil _)
  | cons item items ih =>
    rw [List.mapM_cons, List.forall_mem_cons, ← ih, isOk_bind_iff]
    simp only [isOk_bind_iff, @isOk_iff_exists _ (f item), @isOk_iff_exists _ (items.mapM f)]
    constructor
    · rintro ⟨first, hf, rest, hr, -⟩
      exact ⟨⟨first, hf⟩, ⟨rest, hr⟩⟩
    · rintro ⟨⟨first, hf⟩, ⟨rest, hr⟩⟩
      exact ⟨first, hf, rest, hr, rfl⟩

end Failures

theorem declaredOrEmpty_isOk_iff {value : Value} :
    (declaredOrEmpty value).isOk = true ↔ value.IsWritable := by
  rw [declaredOrEmpty, Value.isOk_map, Value.declared?_isOk_iff]

/-- The digits of a token are not too many to be read as a number, and the argument that it counts
can be written. -/
def IsFilled (args : List Value) (digits : Text) : Prop :=
  digits.length ≤ Integer.digitLimit ∧
    ∀ value, 1 ≤ digits.digitsValue → args[digits.digitsValue]? = some value → value.IsWritable

def IsFillable (args : List Value) (template : Text) : Prop :=
  ∀ digits, .token digits ∈ chunks template → IsFilled args digits

theorem expand_token_isOk_iff {digits : Text} :
    (expand args (.token digits)).isOk = true ↔ IsFilled args digits := by
  rw [expand, isOk_bind_iff, Integer.read, IsFilled]
  by_cases hl : Integer.digitLimit < digits.length
  · rw [if_pos hl]
    exact iff_of_false nofun fun h => absurd h.1 (Nat.not_le_of_lt hl)
  · rw [if_neg hl]
    simp only [Except.ok.injEq, exists_eq_left', Nat.le_of_not_lt hl, true_and]
    by_cases hz : digits.digitsValue = 0
    · rw [if_pos hz, hz]
      exact iff_of_true rfl fun _ h => absurd h (Nat.not_succ_le_zero 0)
    · rw [if_neg hz]
      have hone : 1 ≤ digits.digitsValue := Nat.one_le_iff_ne_zero.mpr hz
      cases ha : args[digits.digitsValue]? with
      | none => exact iff_of_true rfl fun _ _ h => absurd h.symm (Option.some_ne_none _)
      | some value =>
        simp only [hone, Option.some.injEq, forall_eq', forall_const]
        cases value with
        | null => exact iff_of_true rfl trivial
        | _ => exact declaredOrEmpty_isOk_iff

theorem expand_isOk_iff {template : Text} :
    (∀ chunk ∈ chunks template, (expand args chunk).isOk = true) ↔ IsFillable args template := by
  constructor
  · exact fun h digits hd => expand_token_isOk_iff.mp (h _ hd)
  · intro h chunk hc
    cases chunk with
    | plain c => rfl
    | token digits => exact expand_token_isOk_iff.mpr (h digits hc)

theorem printf_map (h : argument args 0 = .map fields) :
    printf args =
      if (Value.map fields).hasLongInteger then .error .tooManyDigits
      else ((chunks (Value.map fields).nested).mapM (expand args)).map fun parts =>
        .text parts.flatten := by
  rw [printf, h]
  dsimp only
  rw [Value.shown_map]
  cases (Value.map fields).hasLongInteger with
  | true => rfl
  | false =>
    rw [if_neg Bool.false_ne_true, if_neg Bool.false_ne_true]
    simp only [bind, Except.bind]
    cases (chunks (Value.map fields).nested).mapM (expand args) <;> rfl

theorem printf_map_ne_null (h : argument args 0 = .map fields) : printf args ≠ .ok .null := by
  rw [printf_map h]
  split
  · nofun
  · cases (chunks (Value.map fields).nested).mapM (expand args) <;> nofun

theorem printf_map_iff (h : argument args 0 = .map fields) :
    (∃ text, printf args = .ok (.text text)) ↔
      ¬ (Value.map fields).HoldsLong ∧ IsFillable args (Value.map fields).nested := by
  rw [← Value.hasLongInteger_iff, ← expand_isOk_iff, ← mapM_isOk_iff, printf_map h]
  cases (Value.map fields).hasLongInteger with
  | true => exact iff_of_false nofun (by simp)
  | false =>
    rw [if_neg Bool.false_ne_true]
    cases (chunks (Value.map fields).nested).mapM (expand args) with
    | error => exact iff_of_false nofun fun h => absurd h.2 nofun
    | ok parts => exact iff_of_true ⟨_, rfl⟩ ⟨nofun, rfl⟩

-- ---------------------------------------------------------------------------
-- Recoloured pictures
-- ---------------------------------------------------------------------------

theorem replacementColor_isOk_iff {value : Value} :
    (replacementColor value).isOk = true ↔ value.IsWritable := by
  rw [← declaredOrEmpty_isOk_iff, replacementColor]
  cases declaredOrEmpty value <;> rfl

theorem recolored_isOk_iff {originals : List Text} {replacements : List Value} {picture : Text}
    (h : originals.length = replacements.length) :
    (recolored picture (originals.zip replacements)).isOk = true ↔
      ∀ value ∈ replacements, value.IsWritable := by
  induction originals generalizing replacements picture with
  | nil =>
    obtain rfl := List.eq_nil_of_length_eq_zero h.symm
    exact iff_of_true rfl (List.forall_mem_nil _)
  | cons original originals ih =>
    cases replacements with
    | nil => cases h
    | cons replacement replacements =>
      rw [List.zip_cons_cons, recolored, isOk_bind_iff, List.forall_mem_cons,
        ← replacementColor_isOk_iff, isOk_iff_exists]
      simp only [ih (Nat.succ.inj h), exists_and_right]

def AreForRecoloring (args : List Value) : Prop :=
  3 ≤ args.length ∧ (argument args 0).truthy = true ∧ (argument args 1).truthy = true

def AreMatched (args : List Value) : Prop :=
  ∃ sought, (argument args 1).shown = .ok sought ∧ (sought.split '|').length = args.length - 2

theorem run_mapSvgColors_of_not (h : ¬ AreForRecoloring args) (log : List Event) :
    (Step.run (mapSvgColors args) log).1 = .ok .null := by
  rw [mapSvgColors.eq_def]
  split
  · next picture sought replacement more =>
    have hfalsy : (!picture.truthy || !sought.truthy) = true := by
      simpa [AreForRecoloring, argument, imp_iff_not_or] using h
    rw [if_pos hfalsy]
    rfl
  · rfl

theorem run_mapSvgColors_eq (h : AreForRecoloring args) (log : List Event) :
    (Step.run (mapSvgColors args) log).1 = do
      let picture ← (argument args 0).shown
      let sought ← (argument args 1).shown
      if (sought.split '|').length = args.length - 2 then
        let pairs := ((sought.split '|').map Text.strip).zip (args.drop 2)
        let result ← recolored picture pairs
        return .text ("data:image/svg+xml;base64,".toList ++ Text.base64 result.utf8)
      else return .null := by
  obtain ⟨hl, hp, hs⟩ := h
  match args, hl with
  | picture :: sought :: replacement :: more, _ =>
    have hgiven : (!picture.truthy || !sought.truthy) = false := by
      simp only [argument, List.getD_cons_zero, List.getD_cons_succ] at hp hs
      rw [hp, hs]
      rfl
    have hargs : argument (picture :: sought :: replacement :: more) 0 = picture ∧
      argument (picture :: sought :: replacement :: more) 1 = sought := ⟨rfl, rfl⟩
    rw [mapSvgColors.eq_def, hargs.1, hargs.2]
    dsimp only
    rw [if_neg (by rw [hgiven]; exact Bool.false_ne_true), Step.run_bind, Step.run_ofExcept]
    cases picture.shown with
    | error => rfl
    | ok picture =>
      dsimp only
      rw [Step.run_bind, Step.run_ofExcept]
      cases sought.shown with
      | error => rfl
      | ok sought =>
        simp only [List.length_map, List.length_cons]
        by_cases hc : (sought.split '|').length = more.length + 1
        · rw [if_neg (not_not_intro hc), Step.run_bind, Step.run_ofExcept]
          simp only [bind, Except.bind]
          rw [if_pos (by omega), List.drop_succ_cons, List.drop_succ_cons, List.drop_zero]
          cases recolored picture (((sought.split '|').map Text.strip).zip (replacement :: more)) <;>
            rfl
        · rw [if_pos hc]
          simp only [bind, Except.bind]
          rw [if_neg (by omega)]
          rfl

/-- Whether a map is recoloured, and whether nothing is given for it; otherwise there is a failure. -/
theorem mapSvgColors_map_iff (h : argument args 0 = .map fields) (log : List Event) :
    ((∃ text, (Step.run (mapSvgColors args) log).1 = .ok (.text text)) ↔
      AreForRecoloring args ∧ ¬ (Value.map fields).HoldsLong ∧ AreMatched args ∧
        ∀ value ∈ args.drop 2, value.IsWritable) ∧
    ((Step.run (mapSvgColors args) log).1 = .ok .null ↔
      ¬ AreForRecoloring args ∨
        ¬ (Value.map fields).HoldsLong ∧ ¬ (argument args 1).HoldsLong ∧ ¬ AreMatched args) := by
  by_cases ha : AreForRecoloring args
  · rw [run_mapSvgColors_eq ha, h, Value.shown_map, ← Value.hasLongInteger_iff,
      ← Value.shown_isOk_iff, AreMatched]
    cases (Value.map fields).hasLongInteger with
    | true =>
      exact ⟨iff_of_false (by rintro ⟨_, ⟨⟩⟩) (by simp), iff_of_false (by rintro ⟨⟩) (by simp [ha])⟩
    | false =>
      rw [if_neg Bool.false_ne_true]
      cases (argument args 1).shown with
      | error =>
        exact ⟨iff_of_false (by rintro ⟨_, ⟨⟩⟩) (by simp),
          iff_of_false (by rintro ⟨⟩) (by simp [ha, Except.isOk, Except.toBool])⟩
      | ok sought =>
        simp only [bind, Except.bind, Except.ok.injEq, exists_eq_left']
        by_cases hc : (sought.split '|').length = args.length - 2
        · have hlen : ((sought.split '|').map Text.strip).length = (args.drop 2).length := by
            rw [List.length_map, List.length_drop, hc]
          rw [if_pos hc, ← recolored_isOk_iff hlen]
          cases recolored (Value.map fields).nested
            (((sought.split '|').map Text.strip).zip (args.drop 2)) with
          | error =>
            exact ⟨iff_of_false (by rintro ⟨_, ⟨⟩⟩) fun h => absurd h.2.2.2 Bool.false_ne_true,
              iff_of_false (by rintro ⟨⟩) (by simp [ha, hc])⟩
          | ok result =>
            exact ⟨iff_of_true ⟨_, rfl⟩ ⟨ha, Bool.false_ne_true, hc, rfl⟩,
              iff_of_false (by rintro ⟨⟩) (by simp [ha, hc])⟩
        · rw [if_neg hc]
          exact ⟨iff_of_false (by rintro ⟨_, ⟨⟩⟩) (by simp [hc]),
            iff_of_true rfl (.inr ⟨Bool.false_ne_true, rfl, hc⟩)⟩
  · rw [run_mapSvgColors_of_not ha]
    exact ⟨iff_of_false (by rintro ⟨_, ⟨⟩⟩) fun h => ha h.1, iff_of_true rfl (.inl ha)⟩

end Function

-- ---------------------------------------------------------------------------
-- All built-in functions
-- ---------------------------------------------------------------------------

namespace Builtin

open Retheme.Function

variable {function : Builtin} {args : List Value} {fields : List (Text × Value)}

def Withholds (args : List Value) : Builtin → Prop
  | toPx | toRem => True
  | opacify => ¬ (argument args 0).HoldsLong ∧ (argument args 1).leadingNumber?.isOk = true
  | tint =>
    argument args 1 = .null ∨ ¬ (argument args 0).HoldsLong ∧ IsColorOrNone (argument args 1)
  | invert => ¬ (argument args 0).HoldsLong
  | mapSvgColors =>
    ¬ AreForRecoloring args ∨
      ¬ (argument args 0).HoldsLong ∧ ¬ (argument args 1).HoldsLong ∧ ¬ AreMatched args
  | url | printf => False

def Renders (args : List Value) : Builtin → Prop
  | url => True
  | printf => ¬ (argument args 0).HoldsLong ∧ IsFillable args (argument args 0).nested
  | mapSvgColors =>
    AreForRecoloring args ∧ ¬ (argument args 0).HoldsLong ∧ AreMatched args ∧
      ∀ value ∈ args.drop 2, value.IsWritable
  | toPx | toRem | opacify | tint | invert => False

theorem apply_null (h : argument args 0 = .null) (log : List Event) :
    (Step.run (function.apply args) log).1 = .ok .null := by
  cases function with
  | mapSvgColors =>
    refine run_mapSvgColors_of_not (fun ha => ?_) log
    rw [AreForRecoloring, h] at ha
    exact absurd ha.2.1 nofun
  | _ =>
    simp only [apply, Function.url, Function.toPx, Function.toRem, Function.opacify, Function.tint,
      Function.invert, Function.printf, h]
    rfl

theorem apply_map_null_iff (h : argument args 0 = .map fields) (log : List Event) :
    (Step.run (function.apply args) log).1 = .ok .null ↔ function.Withholds args := by
  cases function with
  | url =>
    rw [apply, url_map h]
    exact iff_of_false nofun nofun
  | toPx =>
    rw [apply, toPx_map h]
    exact iff_of_true rfl trivial
  | toRem =>
    rw [apply, toRem_map h]
    exact iff_of_true rfl trivial
  | opacify => rw [apply, opacify_map_null_iff h, Withholds, h]
  | tint => rw [apply, tint_map_null_iff h, Withholds, h]
  | invert =>
    rw [apply, invert_map h, Withholds, h, ← Value.hasLongInteger_iff]
    cases (Value.map fields).hasLongInteger <;> simp
  | printf =>
    rw [apply, Step.run_ofExcept]
    exact iff_of_false (printf_map_ne_null h) nofun
  | mapSvgColors => rw [apply, (mapSvgColors_map_iff h log).2, Withholds, h]

theorem apply_map_text_iff (h : argument args 0 = .map fields) (log : List Event) :
    (∃ text, (Step.run (function.apply args) log).1 = .ok (.text text)) ↔
      function.Renders args := by
  cases function with
  | url =>
    rw [apply, url_map h]
    exact iff_of_true ⟨_, rfl⟩ trivial
  | toPx =>
    rw [apply, toPx_map h]
    exact iff_of_false nofun nofun
  | toRem =>
    rw [apply, toRem_map h]
    exact iff_of_false nofun nofun
  | opacify =>
    rw [apply, opacify_map h]
    refine iff_of_false ?_ nofun
    split
    · nofun
    · cases (argument args 1).leadingNumber? <;> nofun
  | tint =>
    rw [apply, tint_map h]
    refine iff_of_false ?_ nofun
    split
    · nofun
    · split
      · nofun
      · rcases Step.run (colorOf Color.read? (argument args 1)) _ with ⟨_ | _, _⟩ <;> nofun
  | invert =>
    rw [apply, invert_map h]
    refine iff_of_false ?_ nofun
    split <;> nofun
  | printf => rw [apply, Step.run_ofExcept, printf_map_iff h, Renders, h]
  | mapSvgColors => rw [apply, (mapSvgColors_map_iff h log).1, Renders, h]

theorem run_apply_fst (function : Builtin) (args : List Value) (log : List Event) :
    (Step.run (function.apply args) log).1 = (Step.run (function.apply args) []).1 :=
  (function.agree_apply args log [] trivial).1

end Builtin

end Retheme
