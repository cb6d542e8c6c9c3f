import Retheme.Proofs.File.Directory

/-!
# Where paths lead

In a tree without links the place a path leads to can be told from its names: a
name goes one down and two points go one up. The tree only says whether the path
leads there. A path that leads to a file still does after other files were
written, since no directory is made in the place of a file.
-/

namespace Retheme

-- ---------------------------------------------------------------------------
-- Paths
-- ---------------------------------------------------------------------------

namespace FilePath

theorem rootOf_cons {c : Char} (h : c ≠ '/') (rest : Text) : rootOf (c :: rest) = [] := by
  rw [rootOf.eq_def]
  split <;> simp_all

theorem child_of_root {name : Text} (h : rootOf name = []) (directory : FilePath) :
    directory.child name = ⟨directory.root, directory.names ++ (ofText name).names⟩ := by
  rw [child, append, if_pos (by simp [ofText, h])]

theorem exists_names_append {ending : Text} (hs : '/' ∉ ending) (hl : 2 < ending.length)
    (text : Text) :
    ∃ front name, (ofText (text ++ ending)).names = front ++ [name] ∧ '/' ∉ name ∧
      name ≠ ['.', '.'] := by
  obtain ⟨front, last, hsplit⟩ := Text.exists_split_append hs text
  have hlong : ∀ other : Text, other.length ≤ 2 → last ++ ending ≠ other := by
    rintro other ho rfl
    rw [List.length_append] at ho
    omega
  have hkept : (!(last ++ ending).isEmpty && decide (last ++ ending ≠ ['.'])) = true := by
    rw [Bool.and_eq_true, Bool.not_eq_true', List.isEmpty_eq_false_iff, decide_eq_true_eq]
    exact ⟨hlong [] (by decide), hlong ['.'] (by decide)⟩
  refine ⟨front.filter fun name => !name.isEmpty && name ≠ ['.'], last ++ ending, ?_, ?_,
    hlong ['.', '.'] (by decide)⟩
  · simp only [ofText, hsplit, List.filter_append, List.filter_cons, hkept, if_true,
      List.filter_nil]
  · exact Text.not_mem_of_mem_split (hsplit ▸ List.mem_concat_self)

end FilePath

namespace FileTree

variable {tree after : FileTree} {path other : FilePath} {start place found : Location}
  {root : Text} {names more : List Text} {bytes : List UInt8}

def resolve (start : Location) (names : List Text) : Location :=
  names.foldl (fun place name => if name = ['.', '.'] then place.dropLast else place ++ [name])
    start

theorem resolve_append (start : Location) (names more : List Text) :
    resolve start (names ++ more) = resolve (resolve start names) more :=
  List.foldl_append

theorem resolve_concat {name : Text} (h : name ≠ ['.', '.']) (start : Location)
    (names : List Text) : resolve start (names ++ [name]) = resolve start names ++ [name] := by
  rw [resolve_append]
  exact if_neg h

theorem eq_resolve_of_follow (h : tree.follow start names = .ok place) :
    place = resolve start names := by
  fun_induction follow tree start names with
  | case1 =>
    cases h
    rfl
  | case2 => cases h
  | case3 start names _ _ ih => exact ih h
  | case4 => cases h
  | case5 start name names _ _ hn _ ih =>
    rw [resolve, List.foldl_cons, if_neg hn]
    exact ih h
  | case6 => cases h
  | case7 => cases h

theorem eq_resolve_of_locate (h : tree.locate path = .ok place) :
    place = resolve (tree.start path) path.names :=
  eq_resolve_of_follow (locate_eq_ok_iff.mp h).2

theorem follow_of_append (h : tree.follow start (names ++ more) = .ok found) :
    tree.follow start names = .ok (resolve start names) := by
  induction names generalizing start with
  | nil => rfl
  | cons name names ih =>
    simp only [List.cons_append, follow, resolve, List.foldl_cons] at h ⊢
    split_ifs at h ⊢
    · exact ih h
    · exact ih h

theorem length_utf8_text_of_append
    (h : (FilePath.text ⟨root, names ++ more⟩).utf8.length < pathLimit) :
    (FilePath.text ⟨root, names⟩).utf8.length < pathLimit := by
  have hp : root ++ Text.join ['/'] names <+: root ++ Text.join ['/'] (names ++ more) :=
    (List.prefix_append_right_inj root).mpr (Text.prefix_join ['/'] names more)
  by_cases he : root ++ Text.join ['/'] names = []
  · rw [FilePath.text, he]
    decide
  · have he' : root ++ Text.join ['/'] (names ++ more) ≠ [] := fun hn =>
      he (List.prefix_nil.mp (by rwa [hn] at hp))
    simp only [FilePath.text, List.isEmpty_iff, he, he', if_false] at h ⊢
    obtain ⟨rest, hrest⟩ := hp
    rw [← hrest, Text.utf8, List.flatMap_append, List.length_append] at h
    exact Nat.lt_of_le_of_lt (Nat.le_add_right ..) h

theorem checkPath_of_append (h : checkPath ⟨root, names ++ more⟩ = .ok ()) :
    checkPath ⟨root, names⟩ = .ok () := by
  rw [checkPath, List.any_append] at h
  split_ifs at h with hz hl
  have hz' : names.any (·.contains '\x00') = false := by
    rw [Bool.not_eq_true, Bool.or_eq_false_iff] at hz
    exact hz.1
  have hl' := length_utf8_text_of_append (Nat.not_le.mp hl)
  rw [checkPath, if_neg (by rw [hz']; exact Bool.false_ne_true), if_neg (Nat.not_le.mpr hl')]

theorem locate_of_append (h : tree.locate ⟨root, names ++ more⟩ = .ok found) :
    tree.locate ⟨root, names⟩ = .ok (resolve (tree.start ⟨root, names⟩) names) := by
  obtain ⟨hc, hf⟩ := locate_eq_ok_iff.mp h
  exact locate_eq_ok_iff.mpr ⟨checkPath_of_append hc, follow_of_append hf⟩

-- ---------------------------------------------------------------------------
-- Files that stay
-- ---------------------------------------------------------------------------

structure LeadsTo (tree : FileTree) (path : FilePath) (place : Location) : Prop where
  locate : tree.locate path = .ok place
  isDirectory : tree.isDirectory place = false
  isSome : (tree.bytes? place).isSome = true
  isOpen : tree.isOpen place = true

theorem isDirectory_makeDirectories (hb : (tree.bytes? place).isSome = true)
    (hd : tree.isDirectory place = false) (start : Location) (names : List Text) :
    (tree.makeDirectories start names).1.isDirectory place = false := by
  fun_induction makeDirectories tree start names with
  | case1 => exact hd
  | case2 => exact hd
  | case3 tree start names _ ih => exact ih hb hd
  | case4 tree start name names _ _ next _ ih => exact ih hb hd
  | case5 => exact hd
  | case6 => exact hd
  | case7 => exact hd
  | case8 tree start name names _ _ next _ hfile _ _ ih =>
    refine ih hb ?_
    rw [Bool.eq_false_iff, ne_eq, isDirectory_add_iff]
    rintro (h | rfl)
    · exact absurd (hd.symm.trans h) Bool.false_ne_true
    · exact hfile hb

theorem isDirectory_makePath (hb : (tree.bytes? place).isSome = true)
    (hd : tree.isDirectory place = false) (path : FilePath) :
    (tree.makePath path).1.isDirectory place = false := by
  rw [makePath]
  split
  · exact isDirectory_makeDirectories hb hd _ _
  · exact hd

/-- What a write that succeeds does, told by places. -/
theorem exists_put_of_write (h : tree.write path bytes = (after, .ok ())) :
    ∃ middle, tree.makePath path.parent = (middle, .ok ()) ∧ Grown tree middle ∧
      after = middle.put (resolve (tree.start path) path.names) bytes ∧
        LeadsTo after path (resolve (tree.start path) path.names) := by
  obtain ⟨middle, place, hm, hl, hd, hw, rfl⟩ := write_eq_ok h
  have hg : Grown tree middle := by
    have hg := grown_makePath tree path.parent
    rwa [hm] at hg
  obtain rfl := eq_resolve_of_locate hl
  rw [start_congr hg.working] at hl hd hw ⊢
  have ho : middle.isOpen (resolve (tree.start path) path.names) = true := isOpen_of_mayWrite hw
  exact ⟨middle, hm, hg, rfl, locate_put _ _ hl, hd, by rw [bytes?_put_self]; rfl, ho⟩

theorem bytes?_of_write (h : tree.write path bytes = (after, .ok ())) (place : Location) :
    after.bytes? place =
      if resolve (tree.start path) path.names = place then some bytes else tree.bytes? place := by
  obtain ⟨middle, -, hg, rfl, -⟩ := exists_put_of_write h
  split_ifs with hp
  · rw [hp, bytes?_put_self]
  · rw [bytes?_put_of_ne middle bytes (Ne.symm hp), hg.bytes?]

theorem working_of_write (h : tree.write path bytes = (after, .ok ())) :
    after.working = tree.working := by
  obtain ⟨middle, -, hg, rfl, -⟩ := exists_put_of_write h
  exact hg.working

theorem isOpen_of_write (h : tree.write path bytes = (after, .ok ())) (place : Location) :
    after.isOpen place = tree.isOpen place := by
  obtain ⟨middle, -, hg, rfl, -⟩ := exists_put_of_write h
  exact hg.isOpen place

theorem LeadsTo.write (hf : LeadsTo tree other place)
    (h : tree.write path bytes = (after, .ok ())) : LeadsTo after other place := by
  obtain ⟨hc, hfollow⟩ := locate_eq_ok_iff.mp hf.locate
  have hstart := start_congr (working_of_write h) other
  have hdirs := (holds_of_write h).directories
  have hopen := isOpen_of_write h
  refine ⟨locate_eq_ok_iff.mpr ⟨hc, hstart ▸ follow_of_directories hdirs hopen hfollow⟩, ?_, ?_,
    (hopen place).trans hf.isOpen⟩
  · obtain ⟨middle, hm, -, rfl, -⟩ := exists_put_of_write h
    have hd := isDirectory_makePath hf.isSome hf.isDirectory path.parent
    rwa [hm] at hd
  · rw [bytes?_of_write h]
    split_ifs
    · rfl
    · exact hf.isSome

theorem LeadsTo.read (hf : LeadsTo tree path place) (hb : tree.bytes? place = some bytes) :
    tree.read path = .ok bytes :=
  read_eq_ok_iff.mpr ⟨place, hf.locate, hf.isDirectory, hb, hf.isOpen⟩

end FileTree

end Retheme
