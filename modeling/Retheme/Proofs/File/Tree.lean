import Mathlib.Tactic.Common
import Retheme.File.Tree

/-!
# Files after a write

A write that succeeds leaves its bytes in the file at the path and every other
file as it was. It makes directories on the way, and takes none away.
-/

namespace Retheme.FileTree

variable {tree middle after : FileTree} {path : FilePath} {start place other : Location}
  {names : List Text} {bytes : List UInt8}

-- ---------------------------------------------------------------------------
-- More directories
-- ---------------------------------------------------------------------------

structure Grown (tree after : FileTree) : Prop where
  files : after.files = tree.files
  working : after.working = tree.working
  closed : after.closed = tree.closed
  readOnly : after.readOnly = tree.readOnly
  directories : ∀ place, tree.isDirectory place = true → after.isDirectory place = true

theorem Grown.refl (tree : FileTree) : Grown tree tree := ⟨rfl, rfl, rfl, rfl, fun _ h => h⟩

theorem Grown.trans (h : Grown tree middle) (h' : Grown middle after) : Grown tree after :=
  ⟨h'.files.trans h.files, h'.working.trans h.working, h'.closed.trans h.closed,
    h'.readOnly.trans h.readOnly, fun place hp => h'.directories place (h.directories place hp)⟩

theorem Grown.bytes? (h : Grown tree after) (place : Location) :
    after.bytes? place = tree.bytes? place := by
  rw [FileTree.bytes?, FileTree.bytes?, h.files]

theorem Grown.isOpen (h : Grown tree after) (place : Location) :
    after.isOpen place = tree.isOpen place := by
  rw [FileTree.isOpen, FileTree.isOpen, h.closed]

theorem start_congr (h : after.working = tree.working) (path : FilePath) :
    after.start path = tree.start path := by
  rw [FileTree.start, FileTree.start, h]

theorem grown_add (tree : FileTree) (place : Location) :
    Grown tree { tree with directories := tree.directories ++ [place] } := by
  refine ⟨rfl, rfl, rfl, rfl, fun other h => ?_⟩
  simp only [isDirectory, Bool.or_eq_true, List.contains_append] at h ⊢
  rcases h with h | h
  · exact .inl h
  · exact .inr (.inl h)

theorem grown_makeDirectories (tree : FileTree) (place : Location) (names : List Text) :
    Grown tree (tree.makeDirectories place names).1 := by
  fun_induction makeDirectories tree place names with
  | case1 => exact .refl _
  | case2 => exact .refl _
  | case3 tree place names _ ih => exact ih
  | case4 tree place name names _ _ next _ ih => exact ih
  | case5 => exact .refl _
  | case6 => exact .refl _
  | case7 => exact .refl _
  | case8 tree place name names _ _ next _ _ _ _ ih => exact (grown_add tree next).trans ih

theorem grown_makePath (tree : FileTree) (path : FilePath) : Grown tree (tree.makePath path).1 := by
  rw [makePath]
  split
  · exact grown_makeDirectories tree _ _
  · exact .refl tree

theorem follow_cons_eq_ok_iff {name : Text} :
    tree.follow start (name :: names) = .ok place ↔
      tree.isDirectory start = true ∧ tree.isOpen start = true ∧
        if name = ['.', '.'] then tree.follow start.dropLast names = .ok place
        else (Text.utf8 name).length ≤ nameLimit ∧
          tree.follow (start ++ [name]) names = .ok place := by
  rw [FileTree.follow, ← Nat.not_lt]
  split_ifs <;> simp_all

theorem follow_of_directories
    (h : ∀ place, tree.isDirectory place = true → after.isDirectory place = true)
    (ho : ∀ place, after.isOpen place = tree.isOpen place)
    (hf : tree.follow start names = .ok place) : after.follow start names = .ok place := by
  induction names generalizing start with
  | nil => exact hf
  | cons name names ih =>
    rw [follow_cons_eq_ok_iff] at hf ⊢
    obtain ⟨hd, hopen, hf⟩ := hf
    refine ⟨h start hd, (ho start).trans hopen, ?_⟩
    split_ifs at hf ⊢
    · exact ih hf
    · exact ⟨hf.1, ih hf.2⟩

-- ---------------------------------------------------------------------------
-- Writing
-- ---------------------------------------------------------------------------

theorem locate_eq_ok_iff :
    tree.locate path = .ok place ↔
      checkPath path = .ok () ∧ tree.follow (tree.start path) path.names = .ok place := by
  rw [locate]
  cases checkPath path with
  | error fault => simp [bind, Except.bind]
  | ok => simp [bind, Except.bind]

theorem bytes?_put_self (tree : FileTree) (place : Location) (bytes : List UInt8) :
    (tree.put place bytes).bytes? place = some bytes := by
  have hnone : (tree.files.filter (·.1 ≠ place)).find? (·.1 = place) = none := by
    simp [List.find?_eq_none]
  rw [FileTree.bytes?, put, List.find?_append, hnone]
  simp

theorem bytes?_put_of_ne (tree : FileTree) (bytes : List UInt8) (h : other ≠ place) :
    (tree.put place bytes).bytes? other = tree.bytes? other := by
  have hfilter : (tree.files.filter (·.1 ≠ place)).find? (·.1 = other) =
      tree.files.find? (·.1 = other) := by
    rw [List.find?_filter]
    congr 1
    funext file
    by_cases hf : file.1 = other
    · simp [hf, h]
    · simp [hf]
  rw [FileTree.bytes?, FileTree.bytes?, put, List.find?_append, hfilter]
  simp [h.symm]

theorem locate_put (other : Location) (bytes : List UInt8) (h : tree.locate path = .ok place) :
    (tree.put other bytes).locate path = .ok place := by
  obtain ⟨hc, hf⟩ := locate_eq_ok_iff.mp h
  have hsame : ∀ place, tree.isDirectory place = true →
      (tree.put other bytes).isDirectory place = true := fun _ hd => hd
  exact locate_eq_ok_iff.mpr ⟨hc, follow_of_directories hsame (fun _ => rfl) hf⟩

theorem write_eq_ok (h : tree.write path bytes = (after, .ok ())) :
    ∃ middle place, tree.makePath path.parent = (middle, .ok ()) ∧
      middle.locate path = .ok place ∧ middle.isDirectory place = false ∧
        middle.mayWrite place = true ∧ after = middle.put place bytes := by
  rw [write] at h
  split at h
  · cases h
  · next middle hm =>
    simp only [writeFile, bind, Except.bind] at h
    cases hl : middle.locate path with
    | error fault =>
      rw [hl] at h
      cases h
    | ok place =>
      simp only [hl] at h
      cases hd : middle.isDirectory place with
      | true =>
        simp only [hd, if_true] at h
        cases h
      | false =>
        simp only [hd, Bool.false_eq_true, if_false] at h
        cases hw : middle.mayWrite place with
        | true =>
          simp only [hw, if_true] at h
          cases h
          exact ⟨middle, place, hm, hl, hd, hw, rfl⟩
        | false =>
          simp only [hw, Bool.false_eq_true, if_false] at h
          cases h

theorem read_eq_ok_iff :
    tree.read path = .ok bytes ↔
      ∃ place, tree.locate path = .ok place ∧ tree.isDirectory place = false ∧
        tree.bytes? place = some bytes ∧ tree.isOpen place = true := by
  simp only [read, bind, Except.bind]
  cases tree.locate path with
  | error fault => simp
  | ok place =>
    cases hd : tree.isDirectory place with
    | true => simp [throw, throwThe, MonadExceptOf.throw, hd]
    | false =>
      cases hb : tree.bytes? place with
      | none => simp [throw, throwThe, MonadExceptOf.throw, hd, hb]
      | some found =>
        cases ho : tree.isOpen place <;>
          simp [pure, Except.pure, throw, throwThe, MonadExceptOf.throw, hd, hb, ho]

/-- No name on the way is too long, and no directory is closed. -/
structure WithinReach (tree : FileTree) (path : FilePath) : Prop where
  short : tree.locate path ≠ .error .nameTooLong
  isOpen : tree.locate path ≠ .error .denied

theorem isPresent_isOk_iff :
    (∃ present, tree.isPresent path = .ok present) ↔ WithinReach tree path := by
  have hw : WithinReach tree path ↔ _ ∧ _ := ⟨fun h => ⟨h.short, h.isOpen⟩, fun h => ⟨h.1, h.2⟩⟩
  rw [hw, isPresent]
  cases tree.locate path with
  | ok place => simp
  | error fault => cases fault <;> simp

theorem isPresent_of_read (h : tree.read path = .ok bytes) : tree.isPresent path = .ok true := by
  obtain ⟨place, hl, -, hb, -⟩ := read_eq_ok_iff.mp h
  simp [isPresent, hl, hb]

theorem isOpen_of_mayWrite (h : tree.mayWrite place = true) : tree.isOpen place = true := by
  rw [mayWrite, mayChange, Bool.and_eq_true, Bool.and_eq_true] at h
  exact h.1.1

/-- After a write that succeeds the file is at the path, and the other files are as they were. -/
structure Holds (tree : FileTree) (path : FilePath) (bytes : List UInt8) (after : FileTree) :
    Prop where
  read : after.read path = .ok bytes
  others : ∀ place other, after.locate path = .ok place → other ≠ place →
    after.bytes? other = tree.bytes? other
  directories : ∀ place, tree.isDirectory place = true → after.isDirectory place = true

theorem holds_put {directory : FilePath} (hm : tree.makePath directory = (middle, .ok ()))
    (hl : middle.locate path = .ok place) (hd : middle.isDirectory place = false)
    (hw : middle.mayWrite place = true) : Holds tree path bytes (middle.put place bytes) := by
  have hg : Grown tree middle := by
    have h := grown_makePath tree directory
    rwa [hm] at h
  have ho : middle.isOpen place = true := isOpen_of_mayWrite hw
  have hread := read_eq_ok_iff.mpr ⟨place, locate_put place bytes hl, hd,
    bytes?_put_self middle place bytes, ho⟩
  refine ⟨hread, ?_, hg.directories⟩
  intro found other hf hne
  rw [locate_put place bytes hl] at hf
  cases hf
  rw [bytes?_put_of_ne middle bytes hne, hg.bytes?]

theorem holds_of_write (h : tree.write path bytes = (after, .ok ())) :
    Holds tree path bytes after := by
  obtain ⟨middle, place, hm, hl, hd, hw, rfl⟩ := write_eq_ok h
  exact holds_put hm hl hd hw

end Retheme.FileTree
