import Retheme.File.Publisher
import Retheme.Processor
import Retheme.Proofs.File.Tree
import Retheme.Proofs.Text.Split

/-!
# Files in a directory that was made

A directory that could be made takes a file of any name that is one name in a
path, unless a name or path is too long, another directory has the name, or the
directory or the file is closed or read-only. A style block is published there with
its bytes, or with a warning and no file.
-/

namespace Retheme

-- ---------------------------------------------------------------------------
-- Names
-- ---------------------------------------------------------------------------

namespace FilePath

variable {name : Text}

/-- A text is one name in a path: it has no slash, and is not dropped. -/
structure IsName (name : Text) : Prop where
  slash : '/' ∉ name
  ne_nil : name ≠ []
  ne_point : name ≠ ['.']

theorem ofText_name (h : IsName name) : ofText name = ⟨[], [name]⟩ := by
  have hroot : rootOf name = [] := by
    cases hn : name with
    | nil => rfl
    | cons c rest =>
      have hc : c ≠ '/' := by
        rintro rfl
        exact h.slash (by simp [hn])
      rw [rootOf.eq_def]
      split <;> simp_all
  rw [ofText, hroot, Text.split_of_not_mem h.slash]
  simp [h.ne_nil, h.ne_point]

theorem child_name (h : IsName name) (directory : FilePath) :
    directory.child name = ⟨directory.root, directory.names ++ [name]⟩ := by
  rw [child, ofText_name h]
  rfl

theorem parent_child (h : IsName name) (directory : FilePath) :
    (directory.child name).parent = directory := by
  rw [child_name h, parent, List.dropLast_concat]

end FilePath

namespace FileTree

variable {tree middle after : FileTree} {directory : FilePath} {start place : Location}
  {name : Text} {names : List Text} {bytes : List UInt8}

-- ---------------------------------------------------------------------------
-- Directories that can be made
-- ---------------------------------------------------------------------------

/-- A directory can be made: it then is one, at a place. -/
structure Makes (tree : FileTree) (directory : FilePath) (middle : FileTree) (place : Location) :
    Prop where
  makePath : tree.makePath directory = (middle, .ok ())
  locate : middle.locate directory = .ok place
  isDirectory : middle.isDirectory place = true

structure IsNested (tree : FileTree) : Prop where
  parent : ∀ place, tree.isDirectory place = true → tree.isDirectory place.dropLast = true
  short : ∀ place name, tree.isDirectory (place ++ [name]) = true →
    (Text.utf8 name).length ≤ nameLimit

/-- A tree as it is kept: relative paths start from a directory. -/
structure WellFormed (tree : FileTree) : Prop extends IsNested tree where
  working : tree.isDirectory tree.working = true

theorem isDirectory_add_iff (tree : FileTree) (added place : Location) :
    ({ tree with directories := tree.directories ++ [added] } : FileTree).isDirectory place = true ↔
      tree.isDirectory place = true ∨ place = added := by
  simp only [isDirectory, Bool.or_eq_true, List.contains_eq_mem, decide_eq_true_eq, List.mem_append,
    List.mem_singleton, or_assoc]

theorem IsNested.add (h : tree.IsNested) (hd : tree.isDirectory place = true)
    (hl : (Text.utf8 name).length ≤ nameLimit) :
    ({ tree with directories := tree.directories ++ [place ++ [name]] } : FileTree).IsNested := by
  refine ⟨fun found hf => ?_, fun found other hf => ?_⟩
  · rw [isDirectory_add_iff] at hf ⊢
    rcases hf with hf | rfl
    · exact .inl (h.parent found hf)
    · exact .inl (by rwa [List.dropLast_concat])
  · rcases (isDirectory_add_iff tree _ _).mp hf with hf | hf
    · exact h.short found other hf
    · obtain ⟨-, hname⟩ := List.append_inj' hf rfl
      obtain rfl := List.singleton_inj.mp hname
      exact hl

theorem follow_of_makeDirectories (hn : tree.IsNested) (hd : tree.isDirectory start = true)
    (h : tree.makeDirectories start names = (after, .ok ())) :
    ∃ place, after.follow start names = .ok place ∧ after.isDirectory place = true := by
  have hg : Grown tree after := by
    have hg := grown_makeDirectories tree start names
    rwa [h] at hg
  have ho : ∀ {place}, ¬ (!tree.isOpen place) = true → after.isOpen place = true := by
    intro place ho
    rwa [hg.isOpen, ← Bool.not_eq_false, ← Bool.not_eq_true']
  fun_induction makeDirectories tree start names with
  | case1 tree start => exact ⟨start, rfl, hg.directories start hd⟩
  | case2 => cases h
  | case3 tree start names hopen ih =>
    obtain ⟨place, hf, hp⟩ := ih hn (hn.parent start hd) h hg ho
    refine ⟨place, follow_cons_eq_ok_iff.mpr ⟨hg.directories start hd, ho hopen, ?_⟩, hp⟩
    rwa [if_pos rfl]
  | case4 tree start name names hopen hpoints next hnext ih =>
    obtain ⟨place, hf, hp⟩ := ih hn hnext h hg ho
    refine ⟨place, follow_cons_eq_ok_iff.mpr ⟨hg.directories start hd, ho hopen, ?_⟩, hp⟩
    rw [if_neg hpoints]
    exact ⟨hn.short start name hnext, hf⟩
  | case5 => cases h
  | case6 => cases h
  | case7 => cases h
  | case8 tree start name names hopen hpoints next hnext hfile hl _ ih =>
    have hadded := (isDirectory_add_iff tree next next).mpr (.inr rfl)
    have hg' := grown_makeDirectories { tree with directories := tree.directories ++ [next] } next
      names
    rw [h] at hg'
    obtain ⟨place, hf, hp⟩ := ih (hn.add hd (Nat.not_lt.mp hl)) hadded h hg' ho
    refine ⟨place, follow_cons_eq_ok_iff.mpr ⟨hg.directories start hd, ho hopen, ?_⟩, hp⟩
    rw [if_neg hpoints]
    exact ⟨Nat.not_lt.mp hl, hf⟩

theorem WellFormed.isDirectory_start (h : tree.WellFormed) (path : FilePath) :
    tree.isDirectory (tree.start path) = true := by
  rw [FileTree.start]
  split
  · exact h.working
  · rfl

theorem WellFormed.exists_makes (h : tree.WellFormed)
    (hm : tree.makePath directory = (middle, .ok ())) :
    ∃ place, tree.Makes directory middle place := by
  have hg := grown_makePath tree directory
  rw [hm] at hg
  have hs : middle.start directory = tree.start directory := start_congr hg.working directory
  have hmake := hm
  rw [makePath] at hmake
  split at hmake
  · next hc =>
    obtain ⟨place, hf, hd⟩ := follow_of_makeDirectories h.toIsNested (h.isDirectory_start directory) hmake
    exact ⟨place, hm, locate_eq_ok_iff.mpr ⟨hc, hs ▸ hf⟩, hd⟩
  · cases hmake

-- ---------------------------------------------------------------------------
-- Files in them
-- ---------------------------------------------------------------------------

theorem follow_concat (h : tree.follow start names = .ok place) (name : Text) :
    tree.follow start (names ++ [name]) = tree.follow place [name] := by
  induction names generalizing start with
  | nil =>
    cases h
    rfl
  | cons first names ih =>
    obtain ⟨hd, ho, hf⟩ := follow_cons_eq_ok_iff.mp h
    rw [List.cons_append, follow, if_pos hd, if_neg (by simp [ho])]
    split_ifs at hf ⊢ with hp hl
    · exact ih hf
    · exact absurd hf.1 (Nat.not_le.mpr hl)
    · exact ih hf.2

structure IsFileName (name : Text) : Prop extends FilePath.IsName name where
  ne_points : name ≠ ['.', '.']
  zero : '\x00' ∉ name

/-- What keeps a file of a name out of a directory at a place. -/
inductive Barred (tree : FileTree) (directory : FilePath) (place : Location) (name : Text) : Prop
  | longName (h : nameLimit < (Text.utf8 name).length)
  | longPath (h : pathLimit ≤ (Text.utf8 (directory.child name).text).length)
  | taken (h : tree.isDirectory (place ++ [name]) = true)
  | closed (h : tree.isOpen place = false)
  | locked (h : tree.mayWrite (place ++ [name]) = false)

theorem checkPath_child (h : checkPath directory = .ok ()) (hn : IsFileName name) :
    checkPath (directory.child name) =
      if pathLimit ≤ (Text.utf8 (directory.child name).text).length then .error .nameTooLong
      else .ok () := by
  have hnames : (directory.names.any fun name => name.contains '\x00') = false := by
    cases hz : directory.names.any fun name => name.contains '\x00' with
    | false => rfl
    | true => simp only [checkPath, hz, if_true] at h; cases h
  have hchild : ((directory.child name).names.any fun name => name.contains '\x00') = false := by
    rw [FilePath.child_name hn.toIsName, List.any_append, hnames]
    simp [hn.zero]
  rw [checkPath, hchild]
  rfl

theorem locate_child (hm : Makes tree directory middle place) (hn : IsFileName name) :
    middle.locate (directory.child name) =
      if pathLimit ≤ (Text.utf8 (directory.child name).text).length then .error .nameTooLong
      else if !middle.isOpen place then .error .denied
      else if nameLimit < (Text.utf8 name).length then .error .nameTooLong
      else .ok (place ++ [name]) := by
  obtain ⟨hc, hf⟩ := locate_eq_ok_iff.mp hm.locate
  have hnames : middle.follow (middle.start (directory.child name)) (directory.child name).names =
      if !middle.isOpen place then .error .denied
      else if nameLimit < (Text.utf8 name).length then .error .nameTooLong
      else .ok (place ++ [name]) := by
    rw [FilePath.child_name hn.toIsName]
    refine (follow_concat hf name).trans ?_
    simp only [follow, hm.isDirectory, hn.ne_points, if_true, if_false]
  rw [locate, checkPath_child hc hn, hnames]
  split <;> rfl

/-- Writing a file into a directory that can be made: the file is put there, unless it is barred. -/
theorem write_child (hm : Makes tree directory middle place) (hn : IsFileName name)
    (bytes : List UInt8) :
    (¬ Barred middle directory place name ∧
        tree.write (directory.child name) bytes = (middle.put (place ++ [name]) bytes, .ok ())) ∨
      Barred middle directory place name ∧ ∃ fault ≠ .invalidPath,
        tree.write (directory.child name) bytes = (middle, .error fault) := by
  have hloc := locate_child hm hn
  rw [write, FilePath.parent_child hn.toIsName, hm.makePath]
  by_cases hp : pathLimit ≤ (Text.utf8 (directory.child name).text).length
  · rw [if_pos hp] at hloc
    exact .inr ⟨.longPath hp, .nameTooLong, by simp, by simp only [writeFile, hloc]; rfl⟩
  rw [if_neg hp] at hloc
  cases ho : middle.isOpen place with
  | false =>
    rw [ho] at hloc
    exact .inr ⟨.closed ho, .denied, by simp, by simp only [writeFile, hloc]; rfl⟩
  | true =>
  rw [ho, Bool.not_true, if_neg Bool.false_ne_true] at hloc
  by_cases hl : nameLimit < (Text.utf8 name).length
  · rw [if_pos hl] at hloc
    exact .inr ⟨.longName hl, .nameTooLong, by simp, by simp only [writeFile, hloc]; rfl⟩
  rw [if_neg hl] at hloc
  cases hd : middle.isDirectory (place ++ [name]) with
  | true =>
    refine .inr ⟨.taken hd, .isDirectory, by simp, ?_⟩
    simp only [writeFile, hloc, bind, Except.bind, hd, if_true]
    rfl
  | false =>
  cases hw : middle.mayWrite (place ++ [name]) with
  | false =>
    refine .inr ⟨.locked hw, .denied, by simp, ?_⟩
    simp only [writeFile, hloc, bind, Except.bind, hd, hw, Bool.false_eq_true, if_false]
    rfl
  | true =>
    refine .inl ⟨fun hb => ?_, ?_⟩
    · cases hb with
      | longName h => exact hl h
      | longPath h => exact hp h
      | taken h => simp [hd] at h
      | closed h => simp [ho] at h
      | locked h => simp [hw] at h
    · simp only [writeFile, hloc, bind, Except.bind, hd, hw, Bool.false_eq_true, if_false, if_true]
      rfl

end FileTree

-- ---------------------------------------------------------------------------
-- Style blocks
-- ---------------------------------------------------------------------------

namespace Publisher

variable {tree middle : FileTree} {directory : FilePath} {place : Location} {block css : Text}

def fileName (block : Text) : Text := block ++ ".css"

theorem mem_fileName_block {ns : Text} {c : Char} (h : c ∈ fileName (Processor.blockId ns)) :
    c ∈ Processor.blockStem ∨ c ∈ ns ∨ c ∈ (".css" : Text) := by
  rw [fileName, Processor.blockId] at h
  rcases List.mem_append.mp h with h | h
  · exact (List.mem_append.mp h).imp_right .inl
  · exact .inr (.inr h)

theorem isName_block {ns : Text} (h : '/' ∉ ns) :
    FilePath.IsName (fileName (Processor.blockId ns)) := by
  refine ⟨fun hm => ?_, fun he => ?_, fun he => ?_⟩
  · rcases mem_fileName_block hm with hm | hm | hm
    · exact absurd hm (by decide)
    · exact h hm
    · exact absurd hm (by decide)
  · cases he
  · cases he

theorem fileName_block_ne_points (ns : Text) : fileName (Processor.blockId ns) ≠ ['.', '.'] := by
  rintro ⟨⟩

theorem isFileName_block {ns : Text} (hs : '/' ∉ ns) (hz : '\x00' ∉ ns) :
    FileTree.IsFileName (fileName (Processor.blockId ns)) := by
  refine ⟨isName_block hs, fileName_block_ne_points ns, fun hm => ?_⟩
  rcases mem_fileName_block hm with hm | hm | hm
  · exact absurd hm (by decide)
  · exact hz hm
  · exact absurd hm (by decide)

/-- What publishing a style block into a directory leaves behind: the block in its file and a note, or
the directory alone and a warning. -/
structure Publishes (tree middle : FileTree) (directory : FilePath) (place : Location)
    (block css : Text) (after : FileTree) (event : Event) : Prop where
  written : ¬ middle.Barred directory place (fileName block) →
    FileTree.Holds tree (path directory block) css.utf8 after ∧
      event = .published block (path directory block).text
  barred : middle.Barred directory place (fileName block) →
    after = middle ∧ FileTree.Grown tree middle ∧
      event = .notPublished block (path directory block).text

theorem exists_publish (hm : tree.Makes directory middle place)
    (hn : FileTree.IsFileName (fileName block)) (css : Text) :
    ∃ after event, publish tree directory block css = (after, .ok event) ∧
      Publishes tree middle directory place block css after event := by
  rw [publish]
  rcases FileTree.write_child hm hn css.utf8 with ⟨hb, hw⟩ | ⟨hb, fault, hfault, hw⟩
  · have hh : FileTree.Holds tree (path directory block) css.utf8
        (middle.put (place ++ [fileName block]) css.utf8) :=
      FileTree.holds_of_write hw
    refine ⟨_, .published block (path directory block).text, ?_, fun _ => ⟨hh, rfl⟩,
      fun h => absurd h hb⟩
    rw [path, ← fileName, hw]
  · have hg := FileTree.grown_makePath tree directory
    rw [hm.makePath] at hg
    refine ⟨middle, .notPublished block (path directory block).text, ?_, fun h => absurd hb h,
      fun _ => ⟨rfl, hg, rfl⟩⟩
    rw [path, ← fileName, hw]
    cases fault with
    | invalidPath => exact absurd rfl hfault
    | _ => rfl

end Publisher

end Retheme
