import Mathlib.Tactic.SplitIfs
import NativeStubs.Files.Tree
import NativeStubs.Proofs.Except

/-! # Reading files back

Writing a file changes no directory and removes nothing, so every way through the tree stays, and
the path of the file leads to what was written.
-/

namespace NativeStubs

namespace FileTree

variable {t t' : FileTree} {place : Place} {entry : Entry} {path : String} {bytes : ByteArray}

theorem lookup_cons_eq (p q : Place) (e : Entry) (rest : List (Place × Entry)) :
    ((q, e) :: rest).lookup p = if p = q then some e else rest.lookup p := by
  rw [List.lookup_cons]
  by_cases h : p = q
  · simp [h]
  · simp [beq_eq_false_iff_ne.mpr h, h]

theorem lookup_setEntry (place p : Place) (entry : Entry) (entries : List (Place × Entry)) :
    (setEntry place entry entries).lookup p =
      if p = place then some entry else entries.lookup p := by
  induction entries with
  | nil => rw [setEntry, lookup_cons_eq]
  | cons row rest ih =>
    obtain ⟨q, e⟩ := row
    unfold setEntry
    split_ifs with hq hp hp
    · rw [lookup_cons_eq, if_pos hp]
    · rw [lookup_cons_eq, lookup_cons_eq, if_neg hp, if_neg (hq ▸ hp)]
    · rw [lookup_cons_eq, ih, if_pos hp, if_neg fun h => hq (h.symm.trans hp)]
    · rw [lookup_cons_eq, lookup_cons_eq, ih, if_neg hp]

theorem get?_set (hne : place ≠ []) (p : Place) :
    (t.set place entry).get? p = if p = place then some entry else t.get? p := by
  unfold get? set
  rw [lookup_setEntry]
  by_cases hp : p = []
  · simp [hp, hne.symm]
  · simp [hp]

/-- A path leads to an entry at a place. -/
def LeadsTo (t : FileTree) (path : String) (place : Place) : Prop :=
  ∃ entry, t.find path = .ok (place, entry)

/-- A tree with all directories of another one, and with an entry wherever that one has one. -/
structure Extends (t t' : FileTree) : Prop where
  directory : ∀ p, t.get? p = some .directory → t'.get? p = some .directory
  isSome : ∀ p, (t.get? p).isSome → (t'.get? p).isSome

theorem Extends.refl (t : FileTree) : t.Extends t := ⟨fun _ => id, fun _ => id⟩

theorem Extends.trans {t'' : FileTree} (h : t.Extends t') (h' : t'.Extends t'') :
    t.Extends t'' where
  directory p hp := h'.directory p (h.directory p hp)
  isSome p hp := h'.isSome p (h.isSome p hp)

/-- A file may be replaced or added, as long as no directory has its place. -/
theorem extends_set_file (bytes : ByteArray) (hne : place ≠ [])
    (hplace : t.get? place ≠ some .directory) : t.Extends (t.set place (.file bytes)) where
  directory p hp := by
    have hne' : p ≠ place := fun h => hplace (h ▸ hp)
    rw [get?_set hne, if_neg hne', hp]
  isSome p hp := by
    rw [get?_set hne]
    split_ifs
    · rfl
    · exact hp

theorem Extends.step {name : String} {p : Place} (h : t.Extends t')
    (hstep : t.step place name = .ok p) : t'.step place name = .ok p := by
  unfold FileTree.step at hstep
  split_ifs at hstep with hdirectory hdot hup hlong hnone
  all_goals
    obtain rfl := Except.ok.inj hstep
    have hdirectory' := h.directory place (Decidable.not_not.mp hdirectory)
  · simp [FileTree.step, hdirectory', hdot]
  · simp [FileTree.step, hdirectory', hup]
  · have hsome := h.isSome (place ++ [name]) (by simpa [Option.isSome_iff_ne_none] using hnone)
    have hnone' : (t'.get? (place ++ [name])).isNone = false := by
      simpa [Option.isSome_iff_ne_none] using hsome
    simp [FileTree.step, hdirectory', hdot, hup, hlong, hnone']

/-- Every way through a tree is one through a tree that extends it. -/
theorem Extends.foldlM_step (h : t.Extends t') (names : List String) {start p : Place}
    (hwalk : names.foldlM t.step start = .ok p) : names.foldlM t'.step start = .ok p := by
  induction names generalizing start with
  | nil => exact hwalk
  | cons name rest ih =>
    rw [List.foldlM_cons, bind_eq_ok_iff] at hwalk ⊢
    obtain ⟨q, hstep, hrest⟩ := hwalk
    exact ⟨q, h.step hstep, ih hrest⟩

/-- The place of a file that can be written: under a last name in a directory that is there. -/
structure IsFilePath (t : FileTree) (path : String) (parent : Place) (name : String) : Prop where
  noFault : pathFault? path = none
  walk : t.walk (Path.names path).dropLast = .ok parent
  directory : t.get? parent = some .directory
  last : (Path.names path).getLast? = some name
  notDot : name ≠ "." ∧ name ≠ ".."
  noSlash : Path.endsInSlash path = false
  short : name.utf8ByteSize ≤ 255

theorem Extends.isFilePath {parent : Place} {name : String} (h : t.Extends t')
    (hpath : t.IsFilePath path parent name) : t'.IsFilePath path parent name :=
  { hpath with
    walk := h.foldlM_step _ hpath.walk
    directory := h.directory _ hpath.directory }

theorem locate_of_isFilePath {parent : Place} {name : String} (h : t.IsFilePath path parent name) :
    t.locate path = .ok (parent, some name) := by
  simp [locate, h.noFault, h.walk, h.directory, h.last, h.notDot, bind, Except.bind]

theorem openFile_of_isFilePath {parent : Place} {name : String}
    (h : t.IsFilePath path parent name)
    (hfile : t.get? (parent ++ [name]) = some (.file bytes)) :
    t.openFile path = .ok (parent ++ [name], some bytes) := by
  simp [openFile, locate_of_isFilePath h, h.noSlash, Nat.not_lt.mpr h.short, hfile]

theorem locate_eq_ok {parent : Place} {name : String}
    (h : t.locate path = .ok (parent, some name)) :
    pathFault? path = none ∧ t.walk (Path.names path).dropLast = .ok parent ∧
      t.get? parent = some .directory ∧ (Path.names path).getLast? = some name ∧
      name ≠ "." ∧ name ≠ ".." := by
  unfold locate at h
  split at h
  · cases h
  · next hfault =>
    obtain ⟨parent', hwalk, h⟩ := bind_eq_ok_iff.mp h
    split_ifs at h with hdirectory
    cases hlast : (Path.names path).getLast? with
    | none =>
      rw [hlast] at h
      cases h
    | some name' =>
      rw [hlast] at h
      dsimp only at h
      split_ifs at h with hdots
      · cases h
      · cases h
        exact ⟨hfault, hwalk, Decidable.not_not.mp hdirectory, rfl, not_or.mp hdots⟩

theorem openFile_eq_ok {old : Option ByteArray} (h : t.openFile path = .ok (place, old)) :
    ∃ parent name, place = parent ++ [name] ∧ t.IsFilePath path parent name ∧
      t.get? place ≠ some .directory := by
  unfold openFile at h
  split at h
  · cases h
  · cases h
  · next parent name hlocate =>
    obtain ⟨hfault, hwalk, hdirectory, hlast, hdots⟩ := locate_eq_ok hlocate
    split_ifs at h with hslash hlong
    have hpath : t.IsFilePath path parent name :=
      ⟨hfault, hwalk, hdirectory, hlast, hdots, by simpa using hslash, Nat.not_lt.mp hlong⟩
    split at h
    · next hnone =>
      cases h
      exact ⟨parent, name, rfl, hpath, by simp [hnone]⟩
    · next hfile =>
      cases h
      exact ⟨parent, name, rfl, hpath, by simp [hfile]⟩
    · cases h

/-- The way to an entry in a directory is the way to the directory and the last name. -/
theorem walk_names {parent : Place} {name : String} (hlast : (Path.names path).getLast? = some name)
    (hwalk : t.walk (Path.names path).dropLast = .ok parent)
    (hdirectory : t.get? parent = some .directory) (hdots : name ≠ "." ∧ name ≠ "..")
    (hshort : name.utf8ByteSize ≤ 255) (hsome : (t.get? (parent ++ [name])).isSome) :
    t.walk (Path.names path) = .ok (parent ++ [name]) := by
  have hnames : Path.names path = (Path.names path).dropLast ++ [name] :=
    (List.dropLast_append_getLast? name hlast).symm
  have hnone : (t.get? (parent ++ [name])).isNone = false := by simpa using hsome
  have hstep : t.step parent name = .ok (parent ++ [name]) := by
    simp [step, hdirectory, hdots.1, hdots.2, hnone, Nat.not_lt.mpr hshort]
  rw [walk, hnames, List.foldlM_append, bind_eq_ok_iff]
  exact ⟨parent, hwalk, by rw [List.foldlM_cons, hstep]; rfl⟩

theorem find_of_isFilePath {parent : Place} {name : String} (h : t.IsFilePath path parent name)
    (hfile : t.get? (parent ++ [name]) = some (.file bytes)) :
    t.find path = .ok (parent ++ [name], .file bytes) := by
  have hwalk := walk_names h.last h.walk h.directory h.notDot h.short (by simp [hfile])
  simp [find, h.noFault, hwalk, hfile, h.noSlash, bind, Except.bind]

section Located

variable {parent : Place} {name : String} {fault : FileFault}
  (hlocate : t.locate path = .ok (parent, some name))
include hlocate

theorem find_of_step_error (hstep : t.step parent name = .error fault) :
    t.find path = .error fault := by
  obtain ⟨hfault, hwalk, -, hlast, -⟩ := locate_eq_ok hlocate
  have hnames : Path.names path = (Path.names path).dropLast ++ [name] :=
    (List.dropLast_append_getLast? name hlast).symm
  have hfail : t.walk (Path.names path) = .error fault := by
    rw [walk, hnames, List.foldlM_append]
    change (t.walk (Path.names path).dropLast >>= _) = _
    rw [hwalk]
    exact (bind_pure (t.step parent name)).trans hstep
  simp [find, hfault, hfail, bind, Except.bind]

theorem find_of_long (hlong : 255 < name.utf8ByteSize) : t.find path = .error .nameTooLong := by
  obtain ⟨-, -, hdirectory, -, hdots⟩ := locate_eq_ok hlocate
  exact find_of_step_error hlocate (by simp [step, hdirectory, hdots, hlong])

theorem openFile_of_long (hslash : Path.endsInSlash path = false)
    (hlong : 255 < name.utf8ByteSize) : t.openFile path = .error .nameTooLong := by
  simp [openFile, hlocate, hslash, hlong]

theorem find_of_directory (hshort : name.utf8ByteSize ≤ 255)
    (h : t.get? (parent ++ [name]) = some .directory) :
    t.find path = .ok (parent ++ [name], .directory) := by
  obtain ⟨hfault, hwalk, hdirectory, hlast, hdots⟩ := locate_eq_ok hlocate
  have hnames := walk_names hlast hwalk hdirectory hdots hshort (by simp [h])
  simp [find, hfault, hnames, h, bind, Except.bind]

theorem openFile_of_directory (hslash : Path.endsInSlash path = false)
    (hshort : name.utf8ByteSize ≤ 255) (h : t.get? (parent ++ [name]) = some .directory) :
    t.openFile path = .error .isDirectory := by
  simp [openFile, hlocate, hslash, Nat.not_lt.mpr hshort, h]

end Located

section FilePath

variable {parent : Place} {name : String} (h : t.IsFilePath path parent name)
include h

theorem find_of_get?_eq_none (hnone : t.get? (parent ++ [name]) = none) :
    t.find path = .error .notFound :=
  find_of_step_error (locate_of_isFilePath h) (by
    simp [step, h.directory, h.notDot, Nat.not_lt.mpr h.short, hnone])

theorem openFile_of_get?_eq_none (hnone : t.get? (parent ++ [name]) = none) :
    t.openFile path = .ok (parent ++ [name], none) := by
  simp [openFile, locate_of_isFilePath h, h.noSlash, Nat.not_lt.mpr h.short, hnone]

theorem exists_find_of_isSome_get? (hsome : (t.get? (parent ++ [name])).isSome) :
    ∃ entry, t.find path = .ok (parent ++ [name], entry) := by
  obtain ⟨entry, hentry⟩ := Option.isSome_iff_exists.mp hsome
  cases entry with
  | file bytes => exact ⟨_, find_of_isFilePath h hentry⟩
  | directory => exact ⟨_, find_of_directory (locate_of_isFilePath h) h.short hentry⟩

/-- The path of a file can be looked up, unless nothing is there. -/
theorem IsFilePath.eq_notFound {fault : FileFault} (hfind : t.find path = .error fault) :
    fault = .notFound := by
  cases hget : t.get? (parent ++ [name]) with
  | none =>
    rw [find_of_get?_eq_none h hget] at hfind
    exact (Except.error.inj hfind).symm
  | some entry =>
    obtain ⟨found, hfound⟩ := exists_find_of_isSome_get? h (by simp [hget])
    rw [hfound] at hfind
    cases hfind

/-- The path of a file can be opened, unless a directory is there. -/
theorem IsFilePath.exists_openFile (hplace : t.get? (parent ++ [name]) ≠ some .directory) :
    ∃ old, t.openFile path = .ok (parent ++ [name], old) := by
  cases hget : t.get? (parent ++ [name]) with
  | none => exact ⟨none, openFile_of_get?_eq_none h hget⟩
  | some entry =>
    cases entry with
    | file bytes => exact ⟨some bytes, openFile_of_isFilePath h hget⟩
    | directory => exact absurd hget hplace

end FilePath

/-- A path leads to a file with some bytes, in a directory that is there. -/
def FileAt (t : FileTree) (path : String) (bytes : ByteArray) : Prop :=
  ∃ parent name, t.IsFilePath path parent name ∧ t.get? (parent ++ [name]) = some (.file bytes)

namespace FileAt

theorem read (h : t.FileAt path bytes) : t.read path = .ok bytes := by
  obtain ⟨parent, name, hpath, hfile⟩ := h
  rw [FileTree.read, find_of_isFilePath hpath hfile]

theorem exists_openFile (h : t.FileAt path bytes) :
    ∃ place, t.openFile path = .ok (place, some bytes) := by
  obtain ⟨parent, name, hpath, hfile⟩ := h
  exact ⟨_, openFile_of_isFilePath hpath hfile⟩

theorem of_openFile {old : Option ByteArray} (hopen : t.openFile path = .ok (place, old))
    (bytes : ByteArray) : (t.set place (.file bytes)).FileAt path bytes := by
  obtain ⟨parent, name, rfl, hpath, hplace⟩ := openFile_eq_ok hopen
  have hne : parent ++ [name] ≠ [] := by simp
  refine ⟨parent, name, (extends_set_file bytes hne hplace).isFilePath hpath, ?_⟩
  rw [get?_set hne, if_pos rfl]

end FileAt

/-- What was written to a file is read from it. -/
theorem read_of_write (h : t.write path bytes = .ok t') : t'.read path = .ok bytes := by
  obtain ⟨⟨place, old⟩, hopen, rfl⟩ := map_eq_ok_iff.mp h
  exact (FileAt.of_openFile hopen bytes).read

section Texts

theorem run_bind_of_run {α β : Type} {x : StateM FileTree α} {f : α → StateM FileTree β} {a : α}
    (h : x.run t = (a, t')) : (x >>= f).run t = (f a).run t' := by
  rw [StateT.run_bind, h]
  rfl

theorem fromUTF8?_toUTF8 (s : String) : String.fromUTF8? s.toUTF8 = some s :=
  dif_pos s.isValidUTF8

theorem run_readText {s : String} (h : t.read path = .ok s.toUTF8) :
    (FileSystem.readText path : StateM FileTree (Except FileFault String)).run t = (.ok s, t) := by
  have hread : (FileSystem.read path : StateM FileTree (Except FileFault ByteArray)).run t =
      (.ok s.toUTF8, t) := congrArg (·, t) h
  rw [FileSystem.readText, run_bind_of_run hread]
  dsimp only
  rw [fromUTF8?_toUTF8]
  rfl

theorem run_writeText (path s : String) :
    (FileSystem.writeText path s : StateM FileTree (Except FileFault Unit)).run t =
      match t.write path s.toUTF8 with
      | .ok t' => (.ok (), t')
      | .error fault => (.error fault, t) := rfl

theorem run_writeText_eq_ok_iff {s : String} :
    (FileSystem.writeText path s : StateM FileTree (Except FileFault Unit)).run t = (.ok (), t') ↔
      t.write path s.toUTF8 = .ok t' := by
  rw [run_writeText]
  cases t.write path s.toUTF8 with
  | ok written =>
    constructor
    · rintro ⟨⟩
      rfl
    · rintro ⟨⟩
      rfl
  | error fault => exact ⟨nofun, nofun⟩

end Texts

section Change

variable {f : FileTree → Except FileFault FileTree}

theorem run_change_of_ok (h : f t = .ok t') : (change f).run t = (.ok (), t') := by
  change change f t = _
  rw [change, h]

theorem run_change_of_error {fault : FileFault} (h : f t = .error fault) :
    (change f).run t = (.error fault, t) := by
  change change f t = _
  rw [change, h]

end Change

end FileTree

end NativeStubs
