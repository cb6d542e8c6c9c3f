import Retheme.Proofs.Function.Formless
import Retheme.Proofs.Function.Template
import Retheme.Proofs.Processor.Addition

/-!
# Markers whose argument has no text

A marker that calls a built-in function is recorded when the call gives a text,
in front of a declaration. With an argument that has no text, this depends on
the function (`gives_nothing_iff`).
-/

namespace Retheme

namespace Expression

/-- An expression is the call of a built-in function, and its arguments are resolved to these
values. -/
inductive CallsWith (functions : Registry) (site : Site) (work : Workspace) (function : Builtin)
    (args : List Value) : Prop
  | intro {name text : Text} {nodes : List Node} {after : Workspace}
      (h : parse site.expression = .ok (.call name nodes text))
      (hn : Entries.get? name functions = some (.builtin function))
      (ha : Step.run (resolveAll functions site nodes) work = (.ok args, after))

variable {functions : Registry} {site : Site} {work : Workspace} {function : Builtin}
  {args : List Value}

theorem led_of_callsWith (h : CallsWith functions site work function args) :
    (led functions site work).1 =
      (Step.run (function.apply args) []).1.toOption.getD .null := by
  obtain ⟨hp, hn, ha⟩ := h
  rw [led, lead, hp]
  dsimp only
  rw [hn]
  dsimp only
  rw [evaluateCall, Step.run_orElse, Step.run_bind, ha]
  dsimp only
  rw [Function.apply, Workspace.report, Step.run_within, function.run_apply_fst]
  cases (Step.run (function.apply args) []).1 <;> rfl

end Expression

namespace Processor

open Retheme.Function

variable {processor : Processor} {source : Text} {theme : Theme} {marker : Sheet.Marker}
  {function : Builtin} {args : List Value}

/-- A marker whose expression leads to a text or to nothing is recorded when it leads to a text and
stands in front of a declaration; otherwise no override is recorded. -/
theorem scanMarker_of_isTextOrNull
    (h : (processor.led (siteOf source theme marker)).1.IsTextOrNull) :
    ((Step.run (scanMarker source theme marker) processor).1 = .ok true ↔
      (∃ text, (processor.led (siteOf source theme marker)).1 = .text text) ∧
        (Sheet.contextAt source marker.start).isValid = true) ∧
    ((Step.run (scanMarker source theme marker) processor).1 ≠ .ok true →
      (Step.run (scanMarker source theme marker) processor).1 = .ok false ∧
        (Step.run (scanMarker source theme marker) processor).2.overrides =
          processor.overrides) := by
  have ho : (processor.led (siteOf source theme marker)).2.overrides = processor.overrides := rfl
  rw [run_scanMarker_eq]
  revert h ho
  rcases processor.led (siteOf source theme marker) with ⟨value, led⟩
  intro h ho
  dsimp only at h ho ⊢
  cases value with
  | null => exact ⟨iff_of_false nofun (by simp), fun _ => ⟨rfl, ho⟩⟩
  | text text =>
    obtain ⟨changed, log, hrun, -⟩ := exists_run_keep theme
      (led.overrideOf source theme marker text) led
    cases hv : (Sheet.contextAt source marker.start).isValid with
    | false => exact ⟨iff_of_false nofun (by simp), fun _ => ⟨rfl, ho⟩⟩
    | true =>
      have hkeep : (Step.run (keep theme (led.overrideOf source theme marker text)) led).1 =
          .ok true := by rw [hrun]
      exact ⟨iff_of_true hkeep ⟨⟨text, rfl⟩, rfl⟩, fun hne => absurd hkeep hne⟩
  | _ => cases h

theorem toOption_eq_text_iff {result : Except Failure Value} {text : Text} :
    result.toOption.getD .null = .text text ↔ result = .ok (.text text) := by
  cases result with
  | error => exact iff_of_false nofun nofun
  | ok value => exact ⟨congrArg Except.ok, Except.ok.inj⟩

/-- Nothing and maps have no text in a declaration. With nothing as its first argument no built-in
function has a result. With a map, each has none just when it withholds, and the marker of a call is
recorded just when the function renders a text, in front of a declaration. -/
theorem gives_nothing_iff (h : (argument args 0).declared? = .ok none) :
    (∀ log, (Step.run (function.apply args) log).1 = .ok .null ↔
      argument args 0 = .null ∨ function.Withholds args) ∧
    ∀ (processor : Processor) (source : Text) (theme : Theme) (marker : Sheet.Marker),
      Expression.CallsWith processor.functions (siteOf source theme marker) processor.work function
        args →
      ((Step.run (scanMarker source theme marker) processor).1 = .ok true ↔
        argument args 0 ≠ .null ∧ function.Renders args ∧
          (Sheet.contextAt source marker.start).isValid = true) ∧
      ((Step.run (scanMarker source theme marker) processor).1 ≠ .ok true →
        (Step.run (scanMarker source theme marker) processor).1 = .ok false ∧
          (Step.run (scanMarker source theme marker) processor).2.overrides =
            processor.overrides) := by
  have htext : (∃ text, (Step.run (function.apply args) []).1 = .ok (.text text)) ↔
      argument args 0 ≠ .null ∧ function.Renders args := by
    rcases Value.declared?_eq_none_iff.mp h with hn | ⟨fields, hm⟩
    · rw [Builtin.apply_null hn]
      exact iff_of_false nofun fun h => h.1 hn
    · rw [Builtin.apply_map_text_iff hm, hm]
      simp
  constructor
  · intro log
    rcases Value.declared?_eq_none_iff.mp h with hn | ⟨fields, hm⟩
    · exact iff_of_true (Builtin.apply_null hn log) (.inl hn)
    · rw [Builtin.apply_map_null_iff hm, hm]
      simp
  · intro processor source theme marker hc
    have hled : (processor.led (siteOf source theme marker)).1 =
        (Step.run (function.apply args) []).1.toOption.getD .null := Expression.led_of_callsWith hc
    have hkind : (processor.led (siteOf source theme marker)).1.IsTextOrNull := by
      have hpost := (function.agree_apply args [] [] trivial).2.2
      rw [hled]
      cases hr : (Step.run (function.apply args) []).1 with
      | error => trivial
      | ok value => exact hpost value hr
    obtain ⟨hiff, hnot⟩ := scanMarker_of_isTextOrNull hkind
    refine ⟨?_, hnot⟩
    simp only [hiff, hled, toOption_eq_text_iff, htext, and_assoc]

-- ---------------------------------------------------------------------------
-- A theme with a map
-- ---------------------------------------------------------------------------

def shadeFields : List (Text × Value) := [("light".toList, .text "#eee".toList)]

abbrev shades : Value := .map shadeFields

def shadesTheme : Theme := ⟨"demo", "dark", [("shades".toList, shades)], none⟩

def markedSheet (call : Text) : Text :=
  ".a \x7b /*![".toList ++ call ++ "]*/ color: black; \x7d".toList

theorem calls_shades {call name : Text}
    (hc : Expression.callParts? call.strip = some (name, "demo.shades".toList))
    (hn : Entries.get? name Registry.initial = some (.builtin function)) (source : Text)
    (position : Int) :
    Expression.CallsWith Registry.initial ⟨call, shadesTheme, source, position⟩ .empty function
      [shades] := by
  have hp := @Expression.parse_leaves call name "demo.shades" ["demo.shades".toList] hc
    (by decide +kernel) (by decide +kernel)
  have hleaf : Expression.leaf "demo.shades" =
      .path ["demo".toList, "shades".toList] "demo.shades" := by
    have hpath : Expression.isPath "demo.shades" = true := by decide +kernel
    have hsplit : Text.split '.' "demo.shades" = ["demo".toList, "shades".toList] := by decide
    rw [Expression.leaf, hpath, hsplit]
    rfl
  have ha : Step.run (Expression.resolveAll Registry.initial ⟨call, shadesTheme, source, position⟩
      (["demo.shades".toList].map Expression.leaf)) .empty = (.ok [shades], .empty) := by
    rw [List.map_cons, hleaf]
    rfl
  exact ⟨hp, hn, ha⟩

/-- A map of the theme as the length to be given in pixels: nothing is recorded. -/
theorem gives_nothing_iff_pixels :
    let source := markedSheet "toPx(demo.shades)"
    let processor := initial "demo" []
    shades.declared? = .ok none ∧
      (Step.run (Builtin.toPx.apply [shades]) []).1 = .ok .null ∧
      Expression.CallsWith processor.functions
        (siteOf source shadesTheme ⟨"toPx(demo.shades)", 5, 28⟩) processor.work .toPx [shades] ∧
      (Step.run (scanMarker source shadesTheme ⟨"toPx(demo.shades)", 5, 28⟩) processor).1 =
        .ok false := by
  intro source processor
  have hcalls : Expression.CallsWith processor.functions
      (siteOf source shadesTheme ⟨"toPx(demo.shades)", 5, 28⟩) processor.work .toPx [shades] :=
    @calls_shades _ _ "toPx" (by decide +kernel) rfl source 5
  obtain ⟨hdirect, hmarker⟩ := @gives_nothing_iff .toPx [shades] rfl
  obtain ⟨hiff, hnot⟩ := hmarker processor source shadesTheme _ hcalls
  refine ⟨rfl, (hdirect []).mpr (.inr trivial), hcalls, (hnot fun hr => ?_).1⟩
  exact (hiff.mp hr).2.1

theorem nested_shades : shades.nested = "\x7b'light': '#eee'\x7d".toList := by decide +kernel

theorem printf_shades : printf [shades] = .ok (.text "\x7b'light': '#eee'\x7d") := by
  have hchunks : chunks "\x7b'light': '#eee'\x7d" =
      "\x7b'light': '#eee'\x7d".toList.map .plain ++ [] := by decide +kernel
  obtain ⟨pieces, hpieces, hflatten⟩ :=
    (@FillsTo.nil [shades]).plain "\x7b'light': '#eee'\x7d"
  have hlong : ¬ shades.hasLongInteger = true := by decide
  rw [printf_map (rfl : argument [shades] 0 = _), if_neg hlong, nested_shades, hchunks, hpieces,
    Except.map, hflatten, List.append_nil]

theorem run_mapSvgColors_shades :
    (Step.run (mapSvgColors [shades, .text "#eee", .text "#fff"]) []).1 =
      .ok (.text "data:image/svg+xml;base64,eydsaWdodCc6ICcjZmZmJ30=") := by
  have hgiven : AreForRecoloring [shades, .text "#eee", .text "#fff"] :=
    ⟨by decide, rfl, rfl⟩
  have hlong : ¬ shades.hasLongInteger = true := by decide
  have hrecolored : recolored "\x7b'light': '#eee'\x7d" [("#eee".toList, .text "#fff".toList)] =
      .ok "\x7b'light': '#fff'\x7d".toList := by decide +kernel
  have hshown : shades.shown = .ok "\x7b'light': '#eee'\x7d".toList := by
    rw [Value.shown_map, if_neg hlong, nested_shades]
  have hsplit : Text.split '|' "#eee" = ["#eee".toList] := by decide
  have hpairs : (["#eee".toList].map Text.strip).zip ([shades, .text "#eee", .text "#fff"].drop 2) =
      [("#eee".toList, .text "#fff".toList)] := rfl
  have hencoded : Text.base64 (Text.utf8 "\x7b'light': '#fff'\x7d") =
      "eydsaWdodCc6ICcjZmZmJ30=".toList := by decide +kernel
  have hpicture : argument [shades, .text "#eee", .text "#fff"] 0 = shades := rfl
  have hsought : argument [shades, .text "#eee", .text "#fff"] 1 = .text "#eee" := rfl
  rw [run_mapSvgColors_eq hgiven, hpicture, hsought]
  simp only [hshown, Value.shown.eq_1, bind, Except.bind, hsplit]
  rw [if_pos (by decide), hpairs, hrecolored]
  dsimp only
  rw [hencoded]
  rfl

/-- A map is shown as an address, as a template and as a picture; the marker of the address is
recorded. -/
theorem not_gives_nothing_shown :
    let source := markedSheet "url(demo.shades)"
    let processor := initial "demo" []
    shades.declared? = .ok none ∧
      (Step.run (Builtin.url.apply [shades]) []).1 = .ok (.text "url(None)") ∧
      (Step.run (Builtin.printf.apply [shades]) []).1 = .ok (.text "\x7b'light': '#eee'\x7d") ∧
      (Step.run (Builtin.mapSvgColors.apply [shades, .text "#eee", .text "#fff"]) []).1 =
        .ok (.text "data:image/svg+xml;base64,eydsaWdodCc6ICcjZmZmJ30=") ∧
      (Step.run (evaluate "url(demo.shades)" shadesTheme source 5) processor).1 =
        .ok (some "url(None)".toList) ∧
      (Step.run (scanMarker source shadesTheme ⟨"url(demo.shades)", 5, 27⟩) processor).1 =
        .ok true := by
  intro source processor
  have hurl : (Step.run (Builtin.url.apply [shades]) []).1 = .ok (.text "url(None)") := rfl
  have hcalls : Expression.CallsWith processor.functions
      (siteOf source shadesTheme ⟨"url(demo.shades)", 5, 27⟩) processor.work .url [shades] :=
    @calls_shades _ _ "url" (by decide +kernel) rfl source 5
  have hled : (processor.led (siteOf source shadesTheme ⟨"url(demo.shades)", 5, 27⟩)).1 =
      .text "url(None)" :=
    (Expression.led_of_callsWith hcalls).trans
      (congrArg (fun result : Except Failure Value => result.toOption.getD .null) hurl)
  refine ⟨rfl, hurl, printf_shades, run_mapSvgColors_shades, ?_, ?_⟩
  · have hsite : siteOf source shadesTheme ⟨"url(demo.shades)", 5, 27⟩ =
        ⟨"url(demo.shades)", shadesTheme, source, 5⟩ := rfl
    rw [hsite] at hled
    rw [run_evaluate, hled]
    rfl
  · refine (scanMarker_of_isTextOrNull (by rw [hled]; trivial)).1.mpr ⟨⟨_, hled⟩, ?_⟩
    decide +kernel

end Processor

end Retheme
