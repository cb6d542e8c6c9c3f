import Mathlib.Tactic.Common
import Retheme.CommandLine.Build

/-!
# What a build comes to

A build loads its theme, scans the sheets for it and delivers the style block.
It ends early when the theme is refused, and breaks off when loading or
scanning fails.
-/

namespace Retheme.CommandLine

variable {world : World} {arguments : List Text} {options : BuildOptions} {settings : Settings}
  {theme : Theme} {css : Option Text} {events : List Event}

def namespaceOf (options : BuildOptions) (settings : Settings) : Text :=
  match options.ns with
  | some (c :: rest) => c :: rest
  | _ => settings.ns

def levelOf (options : BuildOptions) (settings : Settings) : Level :=
  options.logLevel.getD settings.logLevel

def loaded (world : World) (options : BuildOptions) (settings : Settings) : ThemeFile.Loaded :=
  ThemeFile.load world.tree (FilePath.ofText options.theme) (namespaceOf options settings) []

structure Builds (world : World) (options : BuildOptions) (settings : Settings) (theme : Theme)
    (css : Option Text) (events : List Event) : Prop where
  loaded : (loaded world options settings).theme = .ok theme
  block : block world theme (sheetsOf options settings) = (.ok css, events)

theorem run_build (hr : read false arguments = .build options)
    (hs : CommandLine.settings world = .ok settings) :
    run world arguments = buildWith world options settings := by
  rw [run, hr]
  simp only [build, hs]

theorem buildWith_cases (world : World) (options : BuildOptions) (settings : Settings) :
    let level := levelOf options settings
    let loaded := loaded world options settings
    let outcome := buildWith world options settings
    (∃ fault, loaded.theme = .error (.refused fault) ∧ outcome.code = 1 ∧ outcome.broken = none) ∨
    (∃ fault reason, loaded.theme = .error fault ∧ (∀ refusal, fault ≠ .refused refusal) ∧
      outcome = broken world.tree level loaded.events reason) ∨
    (∃ theme failure events, loaded.theme = .ok theme ∧
      block world theme (sheetsOf options settings) = (.error failure, events) ∧
      outcome = broken world.tree level (loaded.events ++ events) (.value failure)) ∨
    ∃ theme css events, Builds world options settings theme css events ∧
      outcome = deliver world level (loaded.events ++ events) theme
        (outputDirectory options settings) css := by
  intro level loaded outcome
  have ho : outcome = buildWith world options settings := rfl
  rw [buildWith.eq_def] at ho
  dsimp only at ho
  split at ho
  · next fault h => exact .inl ⟨fault, h, by rw [ho], by rw [ho]⟩
  · next h => exact .inr (.inl ⟨_, _, h, by simp, ho⟩)
  · next h => exact .inr (.inl ⟨_, _, h, by simp, ho⟩)
  · next failure h => exact .inr (.inl ⟨_, _, h, by simp, ho⟩)
  · next theme h =>
    split at ho
    · next failure events hb => exact .inr (.inr (.inl ⟨theme, failure, events, h, hb, ho⟩))
    · next css events hb => exact .inr (.inr (.inr ⟨theme, css, events, ⟨h, hb⟩, ho⟩))

theorem Builds.buildWith (h : Builds world options settings theme css events) :
    buildWith world options settings =
      deliver world (levelOf options settings)
        ((CommandLine.loaded world options settings).events ++ events) theme
        (outputDirectory options settings) css := by
  rcases buildWith_cases world options settings with ⟨fault, hl, -⟩ | ⟨fault, reason, hl, -⟩ |
    ⟨found, failure, log, hl, hb, -⟩ | ⟨found, block, log, hb, ho⟩
  · cases h.loaded.symm.trans hl
  · cases h.loaded.symm.trans hl
  · cases h.loaded.symm.trans hl
    cases h.block.symm.trans hb
  · cases h.loaded.symm.trans hb.loaded
    cases h.block.symm.trans hb.block
    exact ho

theorem exists_builds (h : (buildWith world options settings).code = 0) :
    ∃ theme css events, Builds world options settings theme css events := by
  rcases buildWith_cases world options settings with ⟨fault, -, hc, -⟩ | ⟨fault, reason, -, -, ho⟩ |
    ⟨theme, failure, events, -, -, ho⟩ | ⟨theme, css, events, hb, -⟩
  · cases h.symm.trans hc
  · rw [ho] at h
    cases h
  · rw [ho] at h
    cases h
  · exact ⟨theme, css, events, hb⟩

end Retheme.CommandLine
