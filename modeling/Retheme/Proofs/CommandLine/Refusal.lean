import Retheme.Proofs.CommandLine.Build
import Retheme.Proofs.Json.Plain
import Retheme.Proofs.Theme.Loading

/-!
# Runs on theme files of any content

Without style sheets a run ends as its theme file is loaded: with a theme it
prints nothing, with a refusal it reports the refusal, and it breaks off
otherwise.
-/

namespace Retheme.CommandLine

theorem block_nil (world : World) (theme : Theme) : (block world theme []).1 = .ok none := rfl

/-- A run ends with an answer: it is not broken off, and the theme was built or refused. -/
structure Answered (outcome : Outcome) : Prop where
  unbroken : outcome.broken = none
  code : outcome.code = 0 ∨ outcome.code = 1

theorem answered_deliver_none (world : World) (level : Level) (events : List Event) (theme : Theme)
    (directory : Option FilePath) : Answered (deliver world level events theme directory none) := by
  cases directory <;> exact ⟨rfl, .inl rfl⟩

theorem not_answered_broken (tree : FileTree) (level : Level) (events : List Event)
    (reason : Break) : ¬ Answered (broken tree level events reason) :=
  fun h => by cases h.unbroken

theorem answered_buildWith_iff {world : World} {options : BuildOptions} {settings : Settings}
    (hs : sheetsOf options settings = []) :
    Answered (buildWith world options settings) ↔
      ThemeFile.Loadable world.tree (FilePath.ofText options.theme) := by
  have hload : ThemeFile.OnlyRefuses (loaded world options settings).theme ↔
      ThemeFile.Loadable world.tree (FilePath.ofText options.theme) := by
    rw [loaded, ThemeFile.onlyRefuses_load_iff, ThemeFile.onlyRefuses_read_iff]
  rw [← hload]
  rcases buildWith_cases world options settings with ⟨fault, hl, hc, hb⟩ |
    ⟨fault, reason, hl, hf, ho⟩ | ⟨theme, failure, events, -, hb, -⟩ |
    ⟨theme, css, events, hb, ho⟩
  · rw [hl]
    exact iff_of_true ⟨hb, .inr hc⟩ (ThemeFile.onlyRefuses_error_iff.mpr ⟨fault, rfl⟩)
  · rw [hl, ho]
    refine iff_of_false (not_answered_broken _ _ _ _) fun h => ?_
    obtain ⟨refusal, rfl⟩ := ThemeFile.onlyRefuses_error_iff.mp h
    exact hf refusal rfl
  · rw [hs] at hb
    cases (block_nil world theme).symm.trans (congrArg Prod.fst hb)
  · have hnone : css = none := by
      have hblock := hb.block
      rw [hs] at hblock
      exact Except.ok.inj ((congrArg Prod.fst hblock).symm.trans (block_nil world theme))
    rw [hb.loaded, ho, hnone]
    exact iff_of_true (answered_deliver_none ..) (ThemeFile.onlyRefuses_ok theme)

/-- A theme file of any content is loaded as a theme with a name or refused, and a run with default
settings and no style sheets is answered, exactly when the path can be one, the bytes are those of a
text without integers that are too long, and fallbacks next to data have items. An integer that is
too long is a run of digits in the text. -/
theorem answered_iff_loadable (tree : FileTree) (path : FilePath) (ns : Text)
    (cascades : Cascades) :
    (((∃ theme, (ThemeFile.load tree path ns cascades).theme = .ok theme ∧ theme.name ≠ []) ∨
          ∃ fault, (ThemeFile.load tree path ns cascades).theme = .error (.refused fault)) ↔
        ThemeFile.Loadable tree path) ∧
    (∀ text, ¬ Json.HoldsLongRun text →
      (∀ fields, Json.read text = .ok (.map fields) → ThemeFile.Listed fields) →
        ThemeFile.Readable text) ∧
    ∀ world arguments options, read false arguments = .build options →
      options.stylesheets = [] → settings world = .ok .default →
        (Answered (run world arguments) ↔
          ThemeFile.Loadable world.tree (FilePath.ofText options.theme)) := by
  refine ⟨ThemeFile.loaded_or_refused_iff tree path ns cascades,
    fun _ => ThemeFile.readable_of_not_holdsLongRun, fun world arguments options hr hn hs => ?_⟩
  have hsheets : sheetsOf options .default = [] := by
    rw [sheetsOf, hn]
    rfl
  rw [run_build hr hs]
  exact answered_buildWith_iff hsheets

def themeWorld (bytes : List UInt8) : World :=
  { environment := ⟨['/'], [], none, none⟩
    tree := { directories := [], files := [(["theme.json".toList], bytes)], working := [] }
    answer := fun _ => .error .unanswered }

def namedTheme : Value := .map [("name".toList, .text "a")]

theorem answered_iff_loadable_named :
    let world := themeWorld (Json.write .line namedTheme).utf8
    let loaded := ThemeFile.load world.tree (FilePath.ofText "theme.json") "theme" []
    ((∃ theme, loaded.theme = .ok theme ∧ theme.name ≠ []) ∨
        ∃ fault, loaded.theme = .error (.refused fault)) ∧
      Answered (run world ["build".toList, "theme.json".toList]) := by
  intro world loaded
  have hstorable : namedTheme.Storable := by
    refine Value.storable_map (by decide) fun field hf => ?_
    obtain rfl := List.mem_singleton.mp hf
    exact Value.storable_text _
  have hread : Json.read (Json.write .line namedTheme).normalizeLines = .ok namedTheme := by
    rw [Json.normalizeLines_write, Json.read_write _ hstorable]
  have hload : ThemeFile.Loadable world.tree (FilePath.ofText "theme.json") := by
    refine ⟨by rintro ⟨⟩, ?_⟩
    rintro _ ⟨⟩
    refine ⟨_, rfl, by simp [hread], fun fields hf => ?_⟩
    rw [hread] at hf
    cases hf
    exact fun _ _ ht => by cases ht
  obtain ⟨hl, -, ha⟩ :=
    answered_iff_loadable world.tree (FilePath.ofText "theme.json") "theme" []
  have hanswered := ha world ["build".toList, "theme.json".toList]
    { theme := "theme.json", stylesheets := [], ns := none, outputDir := none, logLevel := none }
    (by decide) rfl rfl
  exact ⟨hl.mpr hload, hanswered.mpr hload⟩

/-- A byte that is no text breaks a run off, and so do fallbacks that are a number. -/
theorem not_answered_byte :
    (ThemeFile.load (themeWorld [0xff]).tree (FilePath.ofText "theme.json") "demo" []).theme =
        .error .notUtf8 ∧
      (run (themeWorld [0xff]) ["build".toList, "theme.json".toList]).broken = some .notUtf8 ∧
      ThemeFile.ofFields [("name".toList, .text "a"), ("cascade".toList, .int 5)] =
        .error (.value .wrongKind) := ⟨rfl, rfl, rfl⟩

end Retheme.CommandLine
