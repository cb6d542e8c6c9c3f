import Retheme.Proofs.File.Text
import Retheme.Proofs.Json.Plain
import Retheme.Settings

/-!
# Saved settings load back

Settings with valid fields are data from which the same settings are read, and
their file has the bytes of JSON that reads back as this data. So what is saved
is loaded again, provided that the file can be written.
-/

namespace Retheme.Settings

variable {settings : Settings}

structure Valid (settings : Settings) : Prop where
  ns : settings.ns ≠ []
  stylesheets : ∀ sheet ∈ settings.stylesheets, sheet ≠ []
  outputDir : settings.outputDir ≠ some []
  fetchTimeout : minTimeout ≤ settings.fetchTimeout ∧ settings.fetchTimeout ≤ maxTimeout

-- ---------------------------------------------------------------------------
-- Fields
-- ---------------------------------------------------------------------------

theorem nonempty?_text {s : Text} (h : s ≠ []) : nonempty? (.text s) = some s := by
  cases s with
  | nil => exact absurd rfl h
  | cons c rest => rfl

theorem level?_name (level : Level) : level? (.text level.name) = some level := by
  cases level <;> rfl

theorem timeout_of_le {x : Float} (hl : minTimeout ≤ x) (hu : x ≤ maxTimeout) :
    timeout (some x) = x := by
  have hlow := Binary64.not_lt_of_le hl
  have hhigh := Binary64.not_lt_of_le hu
  simp [timeout, hlow, hhigh]

theorem filterMap_nonempty? {sheets : List Text} (h : ∀ sheet ∈ sheets, sheet ≠ []) :
    (sheets.map Value.text).filterMap nonempty? = sheets := by
  have hsome : sheets.filterMap (nonempty? ∘ Value.text) = sheets.filterMap some :=
    List.filterMap_congr fun sheet hs => nonempty?_text (h sheet hs)
  rw [List.filterMap_map, hsome, List.filterMap_some]

def optional : Option Text → Value
  | some s => .text s
  | none => .null

theorem nonempty?_optional {s : Option Text} (h : s ≠ some []) : nonempty? (optional s) = s := by
  cases s with
  | none => rfl
  | some s => exact nonempty?_text fun he => h (congrArg some he)

theorem get?_toData (settings : Settings) :
    let field (name : String) := Entries.get? name.toList settings.toData
    field "namespace" = some (.text settings.ns) ∧
      field "log_level" = some (.text settings.logLevel.name) ∧
      field "stylesheets" = some (.list (settings.stylesheets.map .text)) ∧
      field "output_dir" = some (optional settings.outputDir) ∧
      field "fetch_timeout" = some (.float settings.fetchTimeout) := ⟨rfl, rfl, rfl, rfl, rfl⟩

/-- The data of settings gives settings of the same texts, and of the time limit that is had from
theirs. -/
theorem ofData_toData_of_nonempty (hns : settings.ns ≠ [])
    (hsheets : ∀ sheet ∈ settings.stylesheets, sheet ≠ []) (hdir : settings.outputDir ≠ some []) :
    ofData settings.toData =
      .ok { settings with fetchTimeout := timeout (some settings.fetchTimeout) } := by
  obtain ⟨hn, hlevel, hs, hd, htimeout⟩ := get?_toData settings
  have hfloat : double? (.float settings.fetchTimeout) = .ok (some settings.fetchTimeout) := rfl
  rw [ofData]
  simp only [hn, hlevel, hs, hd, htimeout, hfloat, Option.getD_some, bind, Except.bind,
    nonempty?_text hns, level?_name, filterMap_nonempty? hsheets, nonempty?_optional hdir]
  rfl

theorem ofData_toData (h : settings.Valid) : ofData settings.toData = .ok settings := by
  rw [ofData_toData_of_nonempty h.ns h.stylesheets h.outputDir,
    timeout_of_le h.fetchTimeout.1 h.fetchTimeout.2]

-- ---------------------------------------------------------------------------
-- Text
-- ---------------------------------------------------------------------------

theorem storable_toData (settings : Settings) : (Value.map settings.toData).Storable := by
  have hkeys : (Entries.keys settings.toData).Nodup := by
    have hk : Entries.keys settings.toData =
        ["namespace".toList, "log_level".toList, "stylesheets".toList, "output_dir".toList,
          "fetch_timeout".toList] := rfl
    rw [hk]
    decide
  refine Value.storable_map hkeys fun field hf => ?_
  simp only [toData, List.mem_cons, List.not_mem_nil, or_false] at hf
  rcases hf with rfl | rfl | rfl | rfl | rfl
  · exact Value.storable_text _
  · exact Value.storable_text _
  · refine Value.storable_list fun item hm => ?_
    obtain ⟨sheet, -, rfl⟩ := List.mem_map.mp hm
    exact Value.storable_text sheet
  · cases settings.outputDir with
    | none => exact ⟨by rintro n ⟨⟩, by rintro fields ⟨⟩⟩
    | some directory => exact Value.storable_text directory
  · exact ⟨by rintro n ⟨⟩, by rintro fields ⟨⟩⟩

theorem ofText_toText (h : settings.Valid) : ofText settings.toText = .ok settings := by
  rw [ofText, toText, Json.read_write _ (storable_toData settings)]
  simp only [ofData_toData h]

-- ---------------------------------------------------------------------------
-- Files
-- ---------------------------------------------------------------------------

/-- Saved settings are loaded again. -/
theorem load_save {tree : FileTree} {path : FilePath} (h : settings.Valid)
    (hw : (tree.write path settings.toText.utf8).2 = .ok ()) :
    load (save tree path settings) path = .ok settings := by
  have hwrite : tree.write path settings.toText.utf8 = (save tree path settings, .ok ()) :=
    Prod.ext rfl hw
  have hread := (FileTree.holds_of_write hwrite).read
  have htext : (save tree path settings).readText path = .ok settings.toText := by
    rw [FileTree.readText_of_utf8 hread, toText, Json.normalizeLines_write]
  rw [load, FileTree.isPresent_of_read hread]
  simp only [htext]
  exact ofText_toText h

/-- Settings whose texts need escapes: a quote, a backslash, a carriage return, and a character
beyond the basic plane. -/
theorem load_save_escapes :
    let settings : Settings :=
      { ns := "a\"\\\r", logLevel := .info, stylesheets := [[Char.ofNat 0x1f3a8], "b\n".toList]
        outputDir := some "out", fetchTimeout := 0.5 }
    let path := FilePath.ofText "settings.json"
    load (save { directories := [], files := [], working := [] } path settings) path =
      .ok settings := by
  intro settings path
  have hv : settings.Valid := by
    refine ⟨by decide, ?_, by decide, by decide, by decide⟩
    rintro sheet (_ | ⟨_, _ | ⟨_, ⟨⟩⟩⟩) <;> decide
  exact load_save hv rfl

end Retheme.Settings
