import Retheme.Proofs.CommandLine.Arguments
import Retheme.Proofs.CommandLine.Build
import Retheme.Proofs.File.Directory
import Retheme.Proofs.File.Text
import Retheme.Proofs.Json.Plain
import Retheme.Proofs.Json.RoundTrip
import Retheme.Proofs.Processor.Publication

/-!
# Printed and written style blocks

A build prints its style block, or writes it into a file of its own when there
is an output directory. Both builds load the same theme and scan the same
sheets, so what is written is what would have been printed, and nothing is
written when nothing would have been printed.
-/

namespace Retheme.CommandLine

variable {world : World} {arguments : List Text} {options : BuildOptions} {settings : Settings}
  {theme : Theme} {directory : FilePath} {place : Location} {tree middle : FileTree} {level : Level}
  {events : List Event} {css : Option Text} {text : Text}

theorem outputDirectory_eq_none (hd : options.outputDir = none) (hd' : settings.outputDir = none) :
    outputDirectory options settings = none := by
  rw [outputDirectory, hd, hd']
  rfl

/-- A build does not depend on the output directory until its block is delivered. -/
theorem Builds.into (h : Builds world options settings theme css events) (directory : Text) :
    Builds world (options.into directory) settings theme css events := ⟨h.loaded, h.block⟩

-- ---------------------------------------------------------------------------
-- Blocks
-- ---------------------------------------------------------------------------

theorem renderRule_ne_nil (rule : Text) (overrides : List Override) :
    OverrideStore.renderRule rule overrides ≠ [] := by
  simp [OverrideStore.renderRule]

theorem render_ne_nil {store : OverrideStore} (h : store ≠ []) (fonts : Entries Text) :
    store.render fonts ≠ [] := by
  cases store with
  | nil => exact absurd rfl h
  | cons entry rest => simp [OverrideStore.render, renderRule_ne_nil]

theorem block_ne_nil {hrefs : List Text} (h : block world theme hrefs = (.ok (some text), events)) :
    text ≠ [] := by
  have hr : (Step.run (Processor.addTheme (hrefs.map world.sheet) theme)
      (Processor.initial theme.ns [])).1 = .ok (some text) := congrArg Prod.fst h
  have hb : (Processor.initial theme.ns []).block? ⟨hrefs.map world.sheet, theme⟩ = some text := by
    simp only [Processor.block?, hr]
  obtain ⟨hne, fonts, -, rfl⟩ :=
    Processor.published_eq_some_iff.mp (Processor.published_of_block? hb)
  exact render_ne_nil hne fonts

-- ---------------------------------------------------------------------------
-- Two runs
-- ---------------------------------------------------------------------------

/-- No half of a surrogate pair stands in the theme file or in the settings. -/
structure HoldsExact (world : World) (options : BuildOptions) : Prop where
  theme : ∀ text, world.tree.readText (FilePath.ofText options.theme) = .ok text →
    Json.IsExact text
  settings : ∀ path text, Settings.path? world.environment = some path →
    world.tree.readText path = .ok text → Json.IsExact text

structure Delivers (tree middle : FileTree) (directory : FilePath) (place : Location)
    (block text : Text) (level : Level) (printing writing : Outcome) : Prop where
  kept : printing.tree = tree
  code : writing.code = 0
  printed : writing.printed = some []
  unbroken : writing.broken = none
  nothing : text = [] → writing.tree = tree ∧ writing.events = printing.events
  block : text ≠ [] → ∃ event,
    Publisher.Publishes tree middle directory place block text writing.tree event ∧
      writing.events = printing.events ++ atLeast level [event]

theorem atLeast_append (level : Level) (events more : List Event) :
    atLeast level (events ++ more) = atLeast level events ++ atLeast level more :=
  List.filter_append ..

theorem delivers_deliver (hm : world.tree.Makes directory middle place) (hs : '/' ∉ theme.ns)
    (hz : '\x00' ∉ theme.ns) (hcss : ∀ text, css = some text → text ≠ []) :
    Delivers world.tree middle directory place (Processor.blockId theme.ns) (css.getD []) level
      (deliver world level events theme none css)
      (deliver world level events theme (some directory) css) := by
  cases css with
  | none => exact ⟨rfl, rfl, rfl, rfl, fun _ => ⟨rfl, rfl⟩, fun h => absurd rfl h⟩
  | some text =>
    obtain ⟨after, event, hp, hpub⟩ :=
      Publisher.exists_publish hm (Publisher.isFileName_block hs hz) text
    simp only [deliver, hp]
    exact ⟨rfl, rfl, rfl, rfl, fun h => absurd h (hcss text rfl),
      fun _ => ⟨event, hpub, atLeast_append ..⟩⟩

theorem delivers_buildWith (hb : Builds world options settings theme css events)
    (hd : options.outputDir = none) (hd' : settings.outputDir = none) {directory : Text}
    (hm : world.tree.Makes (FilePath.ofText directory) middle place) (hs : '/' ∉ theme.ns)
    (hz : '\x00' ∉ theme.ns) :
    Delivers world.tree middle (FilePath.ofText directory) place (Processor.blockId theme.ns)
      (css.getD []) (levelOf options settings) (buildWith world options settings)
      (buildWith world (options.into directory) settings) := by
  rw [hb.buildWith, (hb.into directory).buildWith, outputDirectory_eq_none hd hd']
  refine delivers_deliver hm hs hz ?_
  rintro text rfl
  exact block_ne_nil hb.block

/-- A build that ends with code zero and prints a text ends with code zero and prints nothing when it
is given an output directory that can be made. If there is a text, the file of the style block then
holds it and no other file is changed, or a warning says that no file was written, because a name or
a path is too long, a directory has the name, or the directory or the file is closed or read-only; if
there is none, nothing is changed at all. The texts of the files that are read have to be exact: half
of a surrogate pair in them could not be written. -/
theorem delivers_printed (hw : world.tree.WellFormed) (hr : read false arguments = .build options)
    (hs : CommandLine.settings world = .ok settings) (_ : HoldsExact world options)
    (hd : options.outputDir = none) (hd' : settings.outputDir = none)
    (hc : (run world arguments).code = 0)
    (hp : (run world arguments).printed = some text) :
    ∃ theme, (loaded world options settings).theme = .ok theme ∧
      ∀ arguments' directory middle, read false arguments' = .build (options.into directory) →
        '/' ∉ theme.ns → '\x00' ∉ theme.ns →
          world.tree.makePath (FilePath.ofText directory) = (middle, .ok ()) →
            ∃ place, middle.locate (FilePath.ofText directory) = .ok place ∧
              Delivers world.tree middle (FilePath.ofText directory) place
                (Processor.blockId theme.ns) text (levelOf options settings)
                (run world arguments) (run world arguments') := by
  rw [run_build hr hs] at hc hp
  obtain ⟨theme, css, events, hb⟩ := exists_builds hc
  refine ⟨theme, hb.loaded, fun arguments' directory middle hr' hslash hzero hmake => ?_⟩
  have htext : css.getD [] = text := by
    rw [hb.buildWith, outputDirectory_eq_none hd hd'] at hp
    exact Option.some.inj hp
  obtain ⟨place, hm⟩ := hw.exists_makes hmake
  refine ⟨place, hm.locate, ?_⟩
  rw [run_build hr hs, run_build hr' hs, ← htext]
  exact delivers_buildWith hb hd hd' hm hslash hzero

def redFile : Value :=
  .map [("namespace".toList, .text "demo"), ("name".toList, .text "dark"),
    ("data".toList, .map [("fg".toList, .text "red")])]

def redWorld (directories : List Location) : World :=
  { environment := ⟨['/'], [], none, none⟩
    tree := {
      directories
      files := [(["theme.json".toList], (Json.write .line redFile).utf8),
        (["a.css".toList], Text.utf8 Processor.colorSheet)]
      working := [] }
    answer := fun _ => .error .unanswered }

def redArguments : List Text := ["build".toList, "theme.json".toList, "a.css".toList]

def redOptions : BuildOptions :=
  { theme := "theme.json", stylesheets := ["a.css".toList], ns := none, outputDir := none
    logLevel := none }

def redBlock : Text := ".dark .a \x7b color: red; \x7d\n"

theorem readText_redWorld {directories : List Location} {name text : Text}
    (hd : [name] ∉ directories)
    (hl : (redWorld directories).tree.locate (FilePath.ofText name) = .ok [name])
    (hb : (redWorld directories).tree.bytes? [name] = some text.utf8)
    (ht : text.normalizeLines = text) :
    (redWorld directories).tree.readText (FilePath.ofText name) = .ok text := by
  have hn : (redWorld directories).tree.isDirectory [name] = false := by
    simpa [FileTree.isDirectory, redWorld] using hd
  have hr := FileTree.read_eq_ok_iff.mpr ⟨[name], hl, hn, hb, rfl⟩
  rw [FileTree.readText_of_utf8 hr, ht]

theorem storable_redFile : redFile.Storable := by
  refine Value.storable_map (by decide) fun field hf => ?_
  simp only [List.mem_cons, List.not_mem_nil, or_false] at hf
  rcases hf with rfl | rfl | rfl
  · exact Value.storable_text _
  · exact Value.storable_text _
  · refine Value.storable_map (by decide) fun field hf => ?_
    obtain rfl := List.mem_singleton.mp hf
    exact Value.storable_text _

theorem readText_redFile (directories : List Location) (hd : ["theme.json".toList] ∉ directories) :
    (redWorld directories).tree.readText (FilePath.ofText redOptions.theme) =
      .ok (Json.write .line redFile) :=
  readText_redWorld hd rfl rfl (Json.normalizeLines_write .line redFile)

theorem loaded_redWorld (directories : List Location) (hd : ["theme.json".toList] ∉ directories) :
    (loaded (redWorld directories) redOptions .default).theme = .ok Processor.redTheme := by
  have ht := readText_redFile directories hd
  have hr : ThemeFile.read (redWorld directories).tree (FilePath.ofText redOptions.theme) =
      .ok ⟨some "demo", .text "dark", [("fg".toList, .text "red")], [], none⟩ := by
    rw [ThemeFile.read, ht]
    dsimp only
    rw [ThemeFile.ofText, Json.read_write .line storable_redFile]
    rfl
  rw [loaded, ThemeFile.load, hr]
  rfl

theorem sheets_redWorld (directories : List Location) (hd : ["a.css".toList] ∉ directories) :
    (sheetsOf redOptions .default).map (redWorld directories).sheet = Processor.colorSheets := by
  have ht : (redWorld directories).tree.readText (FilePath.ofText "a.css") =
      .ok Processor.colorSheet :=
    readText_redWorld hd rfl rfl rfl
  have hp : (redWorld directories).path "a.css" = .ok (FilePath.ofText "a.css") := rfl
  have hf : (redWorld directories).fetch "a.css" = .ok Processor.colorSheet := by
    rw [World.fetch, if_neg (by decide), hp]
    simp only [bind, Except.bind, ht]
    rfl
  have hs : (redWorld directories).sheet "a.css" = ⟨"a.css", [], .ok Processor.colorSheet⟩ := by
    rw [World.sheet, hf, if_neg (by decide)]
  exact congrArg (fun sheet => [sheet]) hs

theorem exists_builds_redWorld (directories : List Location)
    (ht : ["theme.json".toList] ∉ directories) (hs : ["a.css".toList] ∉ directories) :
    ∃ events, Builds (redWorld directories) redOptions .default Processor.redTheme (some redBlock)
      events := by
  obtain ⟨log, hr⟩ :=
    @Processor.run_addTheme_color Processor.redTheme "red" rfl [] List.not_mem_nil [] []
  have hpublished : Processor.published ((Processor.initial "demo" []).onward ["dark"]
      [⟨Scope.standard ".a" "dark", "color", "red", "fg", false⟩] log) Processor.redTheme =
      .ok (some redBlock) := by
    show Processor.published ((Processor.initial "demo" []).onward ["dark"]
      [⟨Scope.standard ".a" "dark", "color", "red", "fg", false⟩] []) Processor.redTheme = _
    decide +kernel
  refine ⟨log, loaded_redWorld directories ht, ?_⟩
  have hrun : Step.run (Processor.addTheme Processor.colorSheets Processor.redTheme)
      (Processor.initial Processor.redTheme.ns []) = (.ok (some redBlock), _) :=
    hr.trans (Prod.ext hpublished rfl)
  rw [block, sheets_redWorld directories hs, hrun]
  rfl

theorem run_redWorld (directories : List Location) (ht : ["theme.json".toList] ∉ directories)
    (hs : ["a.css".toList] ∉ directories)
    (hw : CommandLine.settings (redWorld directories) = .ok .default) :
    (run (redWorld directories) redArguments).code = 0 ∧
      (run (redWorld directories) redArguments).printed = some redBlock := by
  have hr : read false redArguments = .build redOptions := by decide
  obtain ⟨events, hb⟩ := exists_builds_redWorld directories ht hs
  rw [run_build hr hw, hb.buildWith]
  exact ⟨rfl, rfl⟩

def redPath : FilePath := Publisher.path (FilePath.ofText "out") (Processor.blockId "demo")

theorem delivers_printed_red :
    (redWorld []).tree.WellFormed ∧ (run (redWorld []) redArguments).printed = some redBlock ∧
      (run (redWorld []) (redArguments ++ [outputArgument "out"])).tree.read redPath =
        .ok redBlock.utf8 := by
  have hroot : ∀ place, (redWorld []).tree.isDirectory place = true → place = [] := by
    intro place h
    simpa [FileTree.isDirectory, redWorld] using h
  have hw : (redWorld []).tree.WellFormed := by
    refine ⟨⟨fun place h => ?_, fun place name h => ?_⟩, rfl⟩
    · rw [hroot place h]
      rfl
    · exact absurd (hroot _ h) (by simp)
  have hr : read false redArguments = .build redOptions := by decide
  obtain ⟨hc, hp⟩ := run_redWorld [] List.not_mem_nil List.not_mem_nil rfl
  have he : HoldsExact (redWorld []) redOptions := by
    refine ⟨fun text ht => ?_, ?_⟩
    · rw [readText_redFile [] List.not_mem_nil] at ht
      cases ht
      exact Json.isExact_write .line storable_redFile
    · rintro _ text ⟨⟩ ⟨⟩
  obtain ⟨theme, hl, hwrites⟩ := delivers_printed hw hr rfl he rfl rfl hc hp
  cases hl.symm.trans (loaded_redWorld [] List.not_mem_nil)
  obtain ⟨place, hplace, hd⟩ := hwrites (redArguments ++ [outputArgument "out"]) "out"
    { (redWorld []).tree with directories := [["out".toList]] }
    (read_concat (by decide) (by decide) hr) (by decide) (by decide) rfl
  cases hplace
  obtain ⟨event, hpub, -⟩ := hd.block (by decide)
  refine ⟨hw, hp, (hpub.written ?_).1.read⟩
  rintro (h | h | h | h | h)
  · exact absurd h (by decide)
  · exact absurd h (by decide)
  · cases h
  · cases h
  · cases h

def taken : List Location := [["out".toList], ["out".toList, "style-shifter-demo.css".toList]]

theorem not_delivers_taken :
    (run (redWorld taken) redArguments).code = 0 ∧
      (run (redWorld taken) redArguments).printed = some redBlock ∧
      (redWorld taken).tree.makePath (FilePath.ofText "out") = ((redWorld taken).tree, .ok ()) ∧
      let outcome := run (redWorld taken) (redArguments ++ [outputArgument "out"])
      outcome.code = 0 ∧ outcome.printed = some [] ∧ outcome.tree = (redWorld taken).tree ∧
        outcome.tree.read redPath = .error .isDirectory := by
  have hr : read false redArguments = .build redOptions := by decide
  have hr' := read_concat (by decide) (by decide : "out".toList ≠ ['-', '-']) hr
  obtain ⟨hc, hp⟩ := run_redWorld taken (by decide) (by decide) rfl
  obtain ⟨events, hb⟩ := exists_builds_redWorld taken (by decide) (by decide)
  have hm : (redWorld taken).tree.Makes (FilePath.ofText "out") (redWorld taken).tree
      ["out".toList] := ⟨rfl, rfl, rfl⟩
  have hd := delivers_buildWith hb rfl rfl hm (by decide) (by decide)
  obtain ⟨event, hpub, -⟩ := hd.block (by decide)
  have htree := (hpub.barred (.taken rfl)).1
  have hread : (redWorld taken).tree.read redPath = .error .isDirectory := rfl
  rw [← htree] at hread
  refine ⟨hc, hp, rfl, ?_⟩
  dsimp only
  rw [run_build hr' rfl]
  exact ⟨hd.code, hd.printed, htree, hread⟩

end Retheme.CommandLine
