import Retheme.Proofs.File.Resolution
import Retheme.Studio

/-!
# Style blocks in files of their own

The name of the file of a style block is read as a path below the directory of a
publisher. A namespace without a slash so has a file of that name in the
directory. One with slashes has its file further down or, with names of two
points, further up, and it may be the file of another namespace as well.

Blocks are followed one by one: publishing a block changes one file, and a path
that leads to a file still does (`leadsTo_publish`). After all of them every file
holds the last block published into it. These are the blocks that a studio keeps
in memory just when no two namespaces have one file.
-/

namespace Retheme

namespace Publisher

open Processor (blockId)
open FileTree (resolve LeadsTo)

structure StyleBlock where
  ns : Text
  css : Text

def StyleBlock.id (block : StyleBlock) : Text := blockId block.ns

variable {tree middle after : FileTree} {directory : FilePath} {block other : StyleBlock}
  {blocks : List StyleBlock} {place : Location} {path : FilePath} {ns : Text} {studio : Studio}

-- ---------------------------------------------------------------------------
-- Places
-- ---------------------------------------------------------------------------

def placeOf (tree : FileTree) (directory : FilePath) : Location :=
  resolve (tree.start directory) directory.names

def fileOf (tree : FileTree) (directory : FilePath) (ns : Text) : Location :=
  resolve (placeOf tree directory) (FilePath.ofText (fileName (blockId ns))).names

theorem path_block (directory : FilePath) (ns : Text) :
    Publisher.path directory (blockId ns) =
      ⟨directory.root, directory.names ++ (FilePath.ofText (fileName (blockId ns))).names⟩ :=
  FilePath.child_of_root (FilePath.rootOf_cons (by decide) _) directory

theorem resolve_path_block (tree : FileTree) (directory : FilePath) (ns : Text) :
    resolve (tree.start (Publisher.path directory (blockId ns)))
      (Publisher.path directory (blockId ns)).names = fileOf tree directory ns := by
  rw [path_block]
  exact FileTree.resolve_append ..

theorem fileOf_eq_concat_iff :
    fileOf tree directory ns = placeOf tree directory ++ [fileName (blockId ns)] ↔ '/' ∉ ns := by
  refine ⟨fun h hs => ?_, fun hs => ?_⟩
  · -- The last name of the path is kept, and unlike the name of the file it has no slash.
    obtain ⟨front, name, hnames, hname, hpoints⟩ := FilePath.exists_names_append
      (show '/' ∉ (".css" : Text) by decide) (by decide) (blockId ns)
    rw [fileOf, fileName, hnames, FileTree.resolve_concat hpoints] at h
    have he : name = blockId ns ++ ".css" := List.singleton_inj.mp (List.append_inj_right' h rfl)
    rw [he, blockId] at hname
    exact hname (List.mem_append_left _ (List.mem_append_right _ hs))
  · rw [fileOf, FilePath.ofText_name (isName_block hs)]
    exact FileTree.resolve_concat (fileName_block_ne_points ns) (placeOf tree directory) []

-- ---------------------------------------------------------------------------
-- One block
-- ---------------------------------------------------------------------------

def Publishing (directory : FilePath) (tree : FileTree) (block : StyleBlock) (after : FileTree) :
    Prop :=
  publish tree directory block.id block.css =
    (after, .ok (.published block.id (Publisher.path directory block.id).text))

theorem Publishing.write (h : Publishing directory tree block after) :
    tree.write (Publisher.path directory block.id) block.css.utf8 = (after, .ok ()) := by
  rw [Publishing, publish] at h
  split at h
  · next hw =>
    cases h
    exact hw
  · cases h
  · cases h

theorem Publishing.placeOf (h : Publishing directory tree block after) :
    placeOf after directory = placeOf tree directory := by
  have hworking := FileTree.working_of_write h.write
  rw [Publisher.placeOf, Publisher.placeOf, FileTree.start_congr hworking]

theorem Publishing.fileOf (h : Publishing directory tree block after) (ns : Text) :
    fileOf after directory ns = fileOf tree directory ns := by
  rw [Publisher.fileOf, Publisher.fileOf, h.placeOf]

theorem Publishing.bytes? (h : Publishing directory tree block after) (place : Location) :
    after.bytes? place =
      if Publisher.fileOf tree directory block.ns = place then some block.css.utf8
      else tree.bytes? place := by
  rw [FileTree.bytes?_of_write h.write, StyleBlock.id, resolve_path_block]

theorem Publishing.leadsTo (h : Publishing directory tree block after) :
    LeadsTo after (Publisher.path directory block.id)
      (Publisher.fileOf tree directory block.ns) := by
  obtain ⟨-, -, -, -, hl⟩ := FileTree.exists_put_of_write h.write
  rwa [StyleBlock.id, resolve_path_block] at hl

-- ---------------------------------------------------------------------------
-- Last blocks
-- ---------------------------------------------------------------------------

def lastText (p : StyleBlock → Prop) [DecidablePred p] : List StyleBlock → Option Text
  | [] => none
  | block :: rest => (lastText p rest).or (if p block then some block.css else none)

theorem lastText_congr {p q : StyleBlock → Prop} [DecidablePred p] [DecidablePred q]
    (h : ∀ block ∈ blocks, p block ↔ q block) : lastText p blocks = lastText q blocks := by
  induction blocks with
  | nil => rfl
  | cons block rest ih =>
    rw [lastText, lastText, ih fun other hm => h other (List.mem_cons_of_mem _ hm),
      if_congr (h block List.mem_cons_self) rfl rfl]

theorem exists_lastText {p : StyleBlock → Prop} [DecidablePred p] (hm : block ∈ blocks)
    (hp : p block) : ∃ css, lastText p blocks = some css := by
  induction blocks with
  | nil => cases hm
  | cons first rest ih =>
    rw [lastText]
    rcases List.mem_cons.mp hm with rfl | hm
    · cases lastText p rest with
      | none => exact ⟨block.css, by rw [if_pos hp]; rfl⟩
      | some css => exact ⟨css, rfl⟩
    · obtain ⟨css, hc⟩ := ih hm
      exact ⟨css, by rw [hc]; rfl⟩

def inMemory (studio : Studio) (blocks : List StyleBlock) : Studio :=
  blocks.foldl (fun studio block => studio.publish block.id block.css) studio

theorem get?_inMemory (studio : Studio) (id : Text) (blocks : List StyleBlock) :
    Entries.get? id (inMemory studio blocks).blocks =
      (lastText (·.id = id) blocks).or (Entries.get? id studio.blocks) := by
  induction blocks generalizing studio with
  | nil => rfl
  | cons block rest ih =>
    rw [inMemory, List.foldl_cons, ← inMemory, ih, Studio.publish, Entries.get?_set, lastText,
      Option.or_assoc]
    congr 1
    split_ifs <;> rfl

-- ---------------------------------------------------------------------------
-- Many blocks
-- ---------------------------------------------------------------------------

inductive Run (directory : FilePath) : FileTree → List StyleBlock → FileTree → Prop
  | done (tree : FileTree) : Run directory tree [] tree
  | next {tree middle after : FileTree} {block : StyleBlock} {rest : List StyleBlock}
      (first : Publishing directory tree block middle) (others : Run directory middle rest after) :
      Run directory tree (block :: rest) after

/-- Every file holds the last style block that was published into it, and the other files are as
they were. -/
theorem Run.bytes? (h : Run directory tree blocks after) (place : Location) :
    after.bytes? place =
      ((lastText (fileOf tree directory ·.ns = place) blocks).map Text.utf8).or
        (tree.bytes? place) := by
  induction h with
  | done => rfl
  | @next tree middle after block rest first others ih =>
    simp only [first.fileOf] at ih
    rw [ih, first.bytes?, lastText]
    cases lastText (fileOf tree directory ·.ns = place) rest with
    | some css => rfl
    | none => split_ifs <;> rfl

theorem Run.leadsTo_kept (h : Run directory tree blocks after) (hl : LeadsTo tree path place) :
    LeadsTo after path place := by
  induction h with
  | done => exact hl
  | next first others ih => exact ih (hl.write first.write)

theorem Run.leadsTo (h : Run directory tree blocks after) (hm : block ∈ blocks) :
    LeadsTo after (Publisher.path directory block.id) (fileOf tree directory block.ns) := by
  induction h with
  | done => cases hm
  | next first others ih =>
    rcases List.mem_cons.mp hm with rfl | hm
    · exact others.leadsTo_kept first.leadsTo
    · rw [← first.fileOf]
      exact ih hm

theorem Run.placeOf (h : Run directory tree blocks after) :
    placeOf after directory = placeOf tree directory := by
  induction h with
  | done => rfl
  | next first others ih => exact ih.trans first.placeOf

theorem Run.read (h : Run directory tree blocks after) (hm : block ∈ blocks) :
    ∃ css,
      lastText (fileOf tree directory ·.ns = fileOf tree directory block.ns) blocks = some css ∧
        after.read (Publisher.path directory block.id) = .ok css.utf8 := by
  obtain ⟨css, hc⟩ := exists_lastText
    (p := (fileOf tree directory ·.ns = fileOf tree directory block.ns)) hm rfl
  refine ⟨css, hc, (h.leadsTo hm).read ?_⟩
  rw [h.bytes?, hc]
  rfl

theorem Run.locate_directory (h : Run directory tree blocks after) (hm : block ∈ blocks) :
    after.locate directory = .ok (Publisher.placeOf tree directory) := by
  have hl := (h.leadsTo hm).locate
  rw [StyleBlock.id, path_block] at hl
  rw [← h.placeOf]
  exact FileTree.locate_of_append hl

-- ---------------------------------------------------------------------------
-- Files of their own
-- ---------------------------------------------------------------------------

/-- Style blocks are in files of their own, one for each namespace, as they are in memory. -/
structure OwnFiles (directory : FilePath) (blocks : List StyleBlock) (after : FileTree)
    (memory : Studio) : Prop where
  direct : ∀ block ∈ blocks, ∃ place name, after.locate directory = .ok place ∧
    after.locate (Publisher.path directory block.id) = .ok (place ++ [name])
  apart : ∀ block ∈ blocks, ∀ other ∈ blocks, block.ns ≠ other.ns →
    after.locate (Publisher.path directory block.id) ≠
      after.locate (Publisher.path directory other.id)
  held : ∀ block ∈ blocks, ∃ css, Entries.get? block.id memory.blocks = some css ∧
    after.read (Publisher.path directory block.id) = .ok css.utf8

/-- The files of namespaces are places in the directory, and different ones. -/
structure PlacedApart (tree : FileTree) (directory : FilePath) (blocks : List StyleBlock) :
    Prop where
  direct : ∀ block ∈ blocks, ∃ name,
    fileOf tree directory block.ns = placeOf tree directory ++ [name]
  apart : ∀ block ∈ blocks, ∀ other ∈ blocks, block.ns ≠ other.ns →
    fileOf tree directory block.ns ≠ fileOf tree directory other.ns

theorem StyleBlock.id_eq_iff : block.id = other.id ↔ block.ns = other.ns :=
  List.append_right_inj Processor.blockStem

theorem placedApart_of_not_mem (tree : FileTree) (directory : FilePath)
    (h : ∀ block ∈ blocks, '/' ∉ block.ns) : PlacedApart tree directory blocks := by
  refine ⟨fun block hm => ⟨_, fileOf_eq_concat_iff.mpr (h block hm)⟩,
    fun block hm other ho hne he => hne ?_⟩
  rw [fileOf_eq_concat_iff.mpr (h block hm), fileOf_eq_concat_iff.mpr (h other ho)] at he
  have hname := List.singleton_inj.mp (List.append_inj_right' he rfl)
  exact StyleBlock.id_eq_iff.mp (List.append_cancel_right hname)

/-- Where no two namespaces have one file, memory and file hold the same block. -/
theorem Run.held (h : Run directory tree blocks after) (studio : Studio)
    (hp : PlacedApart tree directory blocks) (hm : block ∈ blocks) :
    ∃ css, Entries.get? block.id (inMemory studio blocks).blocks = some css ∧
      after.read (Publisher.path directory block.id) = .ok css.utf8 := by
  obtain ⟨css, hlast, hread⟩ := h.read hm
  refine ⟨css, ?_, hread⟩
  have hsame : ∀ other ∈ blocks,
      fileOf tree directory other.ns = fileOf tree directory block.ns ↔ other.id = block.id := by
    intro other ho
    rw [StyleBlock.id_eq_iff]
    refine ⟨fun he => ?_, fun he => by rw [he]⟩
    exact Decidable.not_not.mp fun hne => hp.apart other ho block hm hne he
  rw [get?_inMemory, ← lastText_congr hsame, hlast]
  rfl

theorem Run.placedApart (h : Run directory tree blocks after)
    (ho : OwnFiles directory blocks after (inMemory studio blocks)) :
    PlacedApart tree directory blocks where
  direct := by
    intro block hm
    obtain ⟨place, name, hdir, hfile⟩ := ho.direct block hm
    rw [h.locate_directory hm] at hdir
    rw [(h.leadsTo hm).locate] at hfile
    cases hdir
    exact ⟨name, Except.ok.inj hfile⟩
  apart := by
    intro block hm other hm' hne he
    refine ho.apart block hm other hm' hne ?_
    rw [(h.leadsTo hm).locate, (h.leadsTo hm').locate, he]

theorem Run.ownFiles (h : Run directory tree blocks after) (studio : Studio)
    (hp : PlacedApart tree directory blocks) :
    OwnFiles directory blocks after (inMemory studio blocks) where
  direct := by
    intro block hm
    obtain ⟨name, hname⟩ := hp.direct block hm
    exact ⟨_, name, h.locate_directory hm, by rw [(h.leadsTo hm).locate, hname]⟩
  apart := by
    intro block hm other hm' hne he
    rw [(h.leadsTo hm).locate, (h.leadsTo hm').locate] at he
    exact hp.apart block hm other hm' hne (Except.ok.inj he)
  held := fun _ hm => h.held studio hp hm

/-- Style blocks that were all written are in files of their own, as they are in memory, just when
the paths below the directory lead to different places in it. They do when no namespace has a slash;
without one, and only then, the file has the name of the block. In any case a file holds the last
style block published into it. -/
theorem ownFiles_of_run (h : Run directory tree blocks after) (studio : Studio) :
    (OwnFiles directory blocks after (inMemory studio blocks) ↔
        PlacedApart tree directory blocks) ∧
      ((∀ block ∈ blocks, '/' ∉ block.ns) →
        OwnFiles directory blocks after (inMemory studio blocks)) ∧
      (∀ ns, fileOf tree directory ns = placeOf tree directory ++ [fileName (blockId ns)] ↔
        '/' ∉ ns) ∧
      ∀ place, after.bytes? place =
        ((lastText (fileOf tree directory ·.ns = place) blocks).map Text.utf8).or
          (tree.bytes? place) :=
  ⟨⟨h.placedApart, h.ownFiles studio⟩,
    fun hs => h.ownFiles studio (placedApart_of_not_mem tree directory hs),
    fun _ => fileOf_eq_concat_iff, h.bytes?⟩

def bareTree : FileTree := { directories := [], files := [], working := [] }

def emptyStudio : Studio := ⟨[], [], []⟩

def plainBlocks : List StyleBlock := [⟨"demo", "first"⟩, ⟨"other", "second"⟩, ⟨"demo", "third"⟩]

theorem ownFiles_of_run_plain :
    ∃ after, Run (FilePath.ofText "out") bareTree plainBlocks after ∧
      OwnFiles (FilePath.ofText "out") plainBlocks after (inMemory emptyStudio plainBlocks) := by
  have hr : ∃ after, Run (FilePath.ofText "out") bareTree plainBlocks after :=
    ⟨_, .next rfl (.next rfl (.next rfl (.done _)))⟩
  obtain ⟨after, hr⟩ := hr
  exact ⟨after, hr, (ownFiles_of_run hr emptyStudio).2.1 (by decide)⟩

def slashedBlocks : List StyleBlock := [⟨"a/b", "first"⟩, ⟨"a//b", "second"⟩]

/-- Publishing does not keep every namespace in a file of its own: here two of them have one file,
which is not in the directory itself and holds the block of the second. -/
theorem not_ownFiles_slashed :
    ¬ ∀ (directory : FilePath) (tree after : FileTree) (blocks : List StyleBlock) (studio : Studio),
      Run directory tree blocks after → (∀ block ∈ blocks, '\x00' ∉ block.ns) →
        OwnFiles directory blocks after (inMemory studio blocks) := by
  intro h
  have hr : ∃ after, Run (FilePath.ofText "out") bareTree slashedBlocks after :=
    ⟨_, .next rfl (.next rfl (.done _))⟩
  obtain ⟨after, hr⟩ := hr
  have ho := h _ _ _ _ emptyStudio hr (by decide)
  refine ho.apart ⟨"a/b", "first"⟩ (by simp [slashedBlocks]) ⟨"a//b", "second"⟩
    (by simp [slashedBlocks]) (by decide) ?_
  have hpath : Publisher.path (FilePath.ofText "out") (blockId "a/b") =
      Publisher.path (FilePath.ofText "out") (blockId "a//b") := by decide
  exact congrArg after.locate hpath

end Publisher

end Retheme
