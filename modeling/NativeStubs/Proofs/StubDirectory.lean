import Mathlib.Data.List.Nodup
import Mathlib.Data.List.TakeWhile
import NativeStubs.Proofs.Parents
import NativeStubs.StubDirectory

/-! # Preparing a stub directory

Preparation makes the directory and leaves a file with the header for each name. Names without a
slash have different files, all in that directory. Whether such a file is blocked depends on its
name and on what has its place, which starting other files over leaves alone, so the files up to the
first blocked one are started over. Once the files are there, preparing them again and adding to
them cannot fail.
-/

namespace NativeStubs

namespace StubDirectory

variable (d : StubDirectory) {t t' : FileTree} {base : Place} {name : String}
  {names : List String} {bytes : ByteArray}

/-- The place of the file of a namespace in the directory at `base`. -/
def placeIn (base : Place) (name : String) : Place := base ++ [name ++ ".lua"]

theorem placeIn_ne_nil : placeIn base name ≠ [] := by simp [placeIn]

theorem placeIn_inj {name' : String} : placeIn base name = placeIn base name' ↔ name = name' := by
  simp [placeIn]

theorem names_filePath (h : '/' ∉ name.toList) :
    Path.names (d.filePath name) = Path.names d.path ++ [name ++ ".lua"] := by
  refine Path.names_join d.path ?_ ?_
  · rw [String.toList_append, List.mem_append]
    exact fun hmem => hmem.elim h (by decide)
  · simp

/-- The file of a namespace is there, with some bytes. -/
structure HasFile (t : FileTree) (base : Place) (name : String) (bytes : ByteArray) : Prop where
  isFilePath : t.IsFilePath (d.filePath name) base (name ++ ".lua")
  isFile : t.get? (placeIn base name) = some (.file bytes)

namespace HasFile

variable {d}

theorem find (h : d.HasFile t base name bytes) :
    t.find (d.filePath name) = .ok (placeIn base name, .file bytes) :=
  FileTree.find_of_isFilePath h.isFilePath h.isFile

theorem read (h : d.HasFile t base name bytes) : t.read (d.filePath name) = .ok bytes := by
  rw [FileTree.read, h.find]

theorem write (h : d.HasFile t base name bytes) (bytes' : ByteArray) :
    t.write (d.filePath name) bytes' = .ok (t.set (placeIn base name) (.file bytes')) := by
  rw [FileTree.write, FileTree.openFile_of_isFilePath h.isFilePath h.isFile]
  rfl

theorem append (h : d.HasFile t base name bytes) (bytes' : ByteArray) :
    t.append (d.filePath name) bytes' =
      .ok (t.set (placeIn base name) (.file (bytes ++ bytes'))) := by
  rw [FileTree.append, FileTree.openFile_of_isFilePath h.isFilePath h.isFile]
  rfl

theorem toExtends (h : d.HasFile t base name bytes) (bytes' : ByteArray) :
    t.Extends (t.set (placeIn base name) (.file bytes')) :=
  FileTree.extends_set_file bytes' placeIn_ne_nil (by simp [h.isFile])

/-- Writing the file of one namespace leaves the files of the others. -/
theorem set_of_ne {name' : String} {old : ByteArray} (h : d.HasFile t base name bytes)
    (h' : d.HasFile t base name' old) (hne : name ≠ name') (new : ByteArray) :
    d.HasFile (t.set (placeIn base name') (.file new)) base name bytes where
  isFilePath := (h'.toExtends new).isFilePath h.isFilePath
  isFile := by rw [FileTree.get?_set_of_ne (mt placeIn_inj.mp hne), h.isFile]

theorem set_self {old : ByteArray} (h : d.HasFile t base name old) (new : ByteArray) :
    d.HasFile (t.set (placeIn base name) (.file new)) base name new where
  isFilePath := (h.toExtends new).isFilePath h.isFilePath
  isFile := by rw [FileTree.get?_set placeIn_ne_nil, if_pos rfl]

end HasFile

variable {d}

theorem exists_hasFile_set (h : ∀ name ∈ names, ∃ bytes, d.HasFile t base name bytes)
    (hname : name ∈ names) (new : ByteArray) :
    ∀ name' ∈ names, ∃ bytes, d.HasFile (t.set (placeIn base name) (.file new)) base name' bytes := by
  intro name' hname'
  obtain ⟨old, hold⟩ := h name hname
  by_cases hne : name' = name
  · subst hne
    exact ⟨new, hold.set_self new⟩
  · obtain ⟨bytes, hbytes⟩ := h name' hname'
    exact ⟨bytes, hbytes.set_of_ne hold hne new⟩

/-- Every row is about a file of one of the namespaces. -/
def FilesOf (base : Place) (names : List String) (rows : List (Place × Entry)) : Prop :=
  ∀ row ∈ rows, ∃ name ∈ names, ∃ bytes, row = (placeIn base name, .file bytes)

/-- Writing some of the files leaves all of them there. -/
theorem exists_hasFile_setAll {rows : List (Place × Entry)}
    (h : ∀ name ∈ names, ∃ bytes, d.HasFile t base name bytes) (hrows : FilesOf base names rows) :
    t.Extends (t.setAll rows) ∧
      ∀ name ∈ names, ∃ bytes, d.HasFile (t.setAll rows) base name bytes := by
  induction rows generalizing t with
  | nil => exact ⟨.refl t, h⟩
  | cons row rest ih =>
    obtain ⟨⟨name, hname, bytes, rfl⟩, hrest⟩ := List.forall_mem_cons.mp hrows
    obtain ⟨old, hold⟩ := h name hname
    obtain ⟨hextends, hfiles⟩ := ih (exists_hasFile_set h hname bytes) hrest
    exact ⟨(hold.toExtends bytes).trans hextends, hfiles⟩

variable (d)

/-- The files of some namespaces with nothing but the header. -/
def headerRows (base : Place) (names : List String) : List (Place × Entry) :=
  names.map fun name => (placeIn base name, .file header.toUTF8)

theorem filesOf_headerRows (base : Place) (names : List String) :
    FilesOf base names (headerRows base names) := by
  intro row hrow
  obtain ⟨name, hname, rfl⟩ := List.mem_map.mp hrow
  exact ⟨name, hname, _, rfl⟩

theorem nodup_places (base : Place) (h : names.Nodup) : (names.map (placeIn base)).Nodup :=
  h.map fun _ _ heq => placeIn_inj.mp heq

theorem get?_headerRows (hnames : names.Nodup) (h : name ∈ names) :
    (t.setAll (headerRows base names)).get? (placeIn base name) =
      some (.file header.toUTF8) := by
  refine FileTree.get?_setAll_of_mem placeIn_ne_nil ?_ (List.mem_map_of_mem h)
  rw [headerRows, List.map_map]
  exact nodup_places base hnames

open FileTree

/-- The directory that the path of a stub directory leads to. -/
structure IsAt (t : FileTree) (base : Place) : Prop where
  walk : t.walk (Path.names d.path) = .ok base
  directory : t.get? base = some .directory

variable {d} {base' : Place} {fault : FileFault}

namespace IsAt

theorem unique (h : d.IsAt t base) (h' : d.IsAt t base') : base = base' :=
  Except.ok.inj (h.walk.symm.trans h'.walk)

theorem mono (hextends : t.Extends t') (h : d.IsAt t base) : d.IsAt t' base where
  walk := hextends.foldlM_step _ h.walk
  directory := hextends.directory _ h.directory

end IsAt

theorem exists_isAt (h : t.ReachesFirst (Path.ancestors d.path)) : ∃ base, d.IsAt t base :=
  (exists_walk_of_ancestors h).imp fun _ h => ⟨h.1, h.2⟩

/-- What keeps the file of a namespace in the directory at `base` from being opened: there is
something wrong with its path, its name is too long, or a directory has its place. -/
def blocked? (d : StubDirectory) (t : FileTree) (base : Place) (name : String) : Option FileFault :=
  match pathFault? (d.filePath name) with
  | some fault => some fault
  | none =>
    if 255 < (name ++ ".lua").utf8ByteSize then some .nameTooLong
    else if t.get? (placeIn base name) = some .directory then some .isDirectory
    else none

theorem file_ne_dots (name : String) : name ++ ".lua" ≠ "." ∧ name ++ ".lua" ≠ ".." := by
  have hlast : (name ++ ".lua").toList.getLast? = some 'a' := by simp
  constructor <;>
  · intro h
    rw [h] at hlast
    exact absurd hlast (by decide)

theorem endsInSlash_filePath (h : '/' ∉ name.toList) :
    Path.endsInSlash (d.filePath name) = false := by
  refine Path.endsInSlash_join d.path ?_ (by simp)
  rw [String.toList_append, List.mem_append]
  exact fun hmem => hmem.elim h (by decide)

theorem run_startFile {path : String}
    (hfind : ∀ fault, t.find path = .error fault → fault = .notFound)
    (hwrite : t.write path header.toUTF8 = .ok t') :
    (startFile path : StateM FileTree (Except FileFault Unit)).run t = (.ok (), t') := by
  have hwritten := run_writeText_eq_ok_iff.mpr hwrite
  rw [startFile, run_bind_of_run (run_kind path t)]
  cases hlook : t.find path with
  | ok found => exact hwritten
  | error fault =>
    obtain rfl := hfind fault hlook
    exact hwritten

section File

variable (hbase : d.IsAt t base) (hslash : '/' ∉ name.toList)
include hbase hslash

theorem locate_filePath (hfault : pathFault? (d.filePath name) = none) :
    t.locate (d.filePath name) = .ok (base, some (name ++ ".lua")) := by
  simp [locate, hfault, names_filePath d hslash, hbase.walk, hbase.directory, file_ne_dots name,
    bind, Except.bind]

/-- A blocked file cannot be opened, and if it cannot be looked up then for the same reason. -/
theorem openFile_of_blocked (h : d.blocked? t base name = some fault) :
    t.openFile (d.filePath name) = .error fault ∧
      ∀ fault', t.find (d.filePath name) = .error fault' → fault' = fault := by
  unfold blocked? at h
  split at h
  · next hfault =>
    obtain rfl := Option.some.inj h
    simp [openFile, locate, find, hfault]
  · next hfault =>
    have hlocate := locate_filePath hbase hslash hfault
    have hends : Path.endsInSlash (d.filePath name) = false := endsInSlash_filePath hslash
    split_ifs at h with hlong hdirectory
    · obtain rfl := Option.some.inj h
      refine ⟨openFile_of_long hlocate hends hlong, fun fault' hfind => ?_⟩
      rw [find_of_long hlocate hlong] at hfind
      exact (Except.error.inj hfind).symm
    · obtain rfl := Option.some.inj h
      have hshort := Nat.not_lt.mp hlong
      refine ⟨openFile_of_directory hlocate hends hshort hdirectory, fun fault' hfind => ?_⟩
      rw [find_of_directory hlocate hshort hdirectory] at hfind
      cases hfind

/-- The file of a namespace that is not blocked can be written. -/
theorem isFilePath_of_unblocked (h : d.blocked? t base name = none) :
    t.IsFilePath (d.filePath name) base (name ++ ".lua") ∧
      t.get? (placeIn base name) ≠ some .directory := by
  unfold blocked? at h
  split at h
  · cases h
  · next hfault =>
    split_ifs at h with hlong hdirectory
    obtain ⟨-, hwalk, hroom, hlast, hdots⟩ := locate_eq_ok (locate_filePath hbase hslash hfault)
    exact ⟨⟨hfault, hwalk, hroom, hlast, hdots, endsInSlash_filePath hslash, Nat.not_lt.mp hlong⟩,
      hdirectory⟩

theorem run_startFile_of_blocked (h : d.blocked? t base name = some fault) :
    (startFile (d.filePath name) : StateM FileTree (Except FileFault Unit)).run t =
      (.error fault, t) := by
  obtain ⟨hopen, hfind⟩ := openFile_of_blocked hbase hslash h
  have hwrite : (FileSystem.writeText (d.filePath name) header :
      StateM FileTree (Except FileFault Unit)).run t = (.error fault, t) := by
    rw [run_writeText, write, hopen]
    rfl
  rw [startFile, run_bind_of_run (run_kind _ t)]
  cases hlook : t.find (d.filePath name) with
  | ok found => exact hwrite
  | error fault' =>
    obtain rfl := hfind fault' hlook
    cases fault' with
    | notFound => exact hwrite
    | _ => rfl

theorem run_startFile_of_unblocked (h : d.blocked? t base name = none) :
    (startFile (d.filePath name) : StateM FileTree (Except FileFault Unit)).run t =
      (.ok (), t.set (placeIn base name) (.file header.toUTF8)) := by
  obtain ⟨hpath, hplace⟩ := isFilePath_of_unblocked hbase hslash h
  obtain ⟨old, hopen⟩ := hpath.exists_openFile hplace
  refine run_startFile (fun fault hfind => hpath.eq_notFound hfind) ?_
  rw [write, hopen]
  rfl

end File

/-- Starting the file of a namespace over blocks no other file and frees none. -/
theorem blocked?_set (h : d.blocked? t base name = none) (bytes : ByteArray) :
    d.blocked? (t.set (placeIn base name) (.file bytes)) base = d.blocked? t base := by
  funext other
  by_cases hother : other = name
  · subst hother
    have hfile : (t.set (placeIn base other) (.file bytes)).get? (placeIn base other) =
        some (.file bytes) := by
      rw [get?_set placeIn_ne_nil, if_pos rfl]
    rw [h]
    unfold blocked? at h ⊢
    split at h
    · cases h
    · next hfault =>
      split_ifs at h with hlong
      simp only [hfile, if_neg hlong]
      rfl
  · rw [blocked?, blocked?, get?_set_of_ne (mt placeIn_inj.mp hother)]

/-- The files of some namespaces are started over up to the first one that is blocked. -/
theorem run_startFiles_eq (hbase : d.IsAt t base) (hslash : ∀ name ∈ names, '/' ∉ name.toList) :
    (d.startFiles names : StateM FileTree (Except FileFault Unit)).run t =
      ((names.findSome? (d.blocked? t base)).elim (.ok ()) .error,
        t.setAll (headerRows base
          (names.takeWhile fun name => (d.blocked? t base name).isNone))) := by
  induction names generalizing t with
  | nil => rfl
  | cons name rest ih =>
    obtain ⟨hname, hrest⟩ := List.forall_mem_cons.mp hslash
    cases hblocked : d.blocked? t base name with
    | some fault =>
      rw [startFiles, run_bind_of_run (run_startFile_of_blocked hbase hname hblocked),
        List.findSome?_cons, hblocked, List.takeWhile_cons_of_neg (by simp [hblocked])]
      rfl
    | none =>
      have hplace := (isFilePath_of_unblocked hbase hname hblocked).2
      have hextends := extends_set_file header.toUTF8 placeIn_ne_nil hplace
      rw [startFiles, run_bind_of_run (run_startFile_of_unblocked hbase hname hblocked)]
      dsimp only
      rw [ih (hbase.mono hextends) hrest, blocked?_set hblocked, List.findSome?_cons, hblocked,
        List.takeWhile_cons_of_pos (by simp [hblocked])]
      rfl

theorem startFiles_eq_error (hbase : d.IsAt t base) (hslash : ∀ name ∈ names, '/' ∉ name.toList)
    (h : (d.startFiles names : StateM FileTree (Except FileFault Unit)).run t =
      (.error fault, t')) :
    ∃ before name after, names = before ++ name :: after ∧
      (∀ earlier ∈ before, d.blocked? t base earlier = none) ∧
      d.blocked? t base name = some fault ∧ t' = t.setAll (headerRows base before) := by
  rw [run_startFiles_eq hbase hslash] at h
  obtain ⟨hanswer, rfl⟩ := Prod.mk.inj h
  cases hfirst : names.findSome? (d.blocked? t base) with
  | none =>
    rw [hfirst] at hanswer
    cases hanswer
  | some first =>
    rw [hfirst] at hanswer
    cases hanswer
    obtain ⟨before, name, after, rfl, hname, hbefore⟩ := List.findSome?_eq_some_iff.mp hfirst
    refine ⟨before, name, after, rfl, hbefore, hname, ?_⟩
    rw [List.takeWhile_append_of_pos fun earlier hearlier => by simp [hbefore earlier hearlier],
      List.takeWhile_cons_of_neg (by simp [hname]), List.append_nil]

/-- Starting over files that are not blocked takes nothing away and blocks no other file. -/
theorem extends_headerRows (hbase : d.IsAt t base) (hslash : ∀ name ∈ names, '/' ∉ name.toList)
    (h : ∀ name ∈ names, d.blocked? t base name = none) :
    t.Extends (t.setAll (headerRows base names)) ∧
      d.blocked? (t.setAll (headerRows base names)) base = d.blocked? t base := by
  induction names generalizing t with
  | nil => exact ⟨.refl t, rfl⟩
  | cons name rest ih =>
    obtain ⟨hname, hrest⟩ := List.forall_mem_cons.mp hslash
    obtain ⟨hfirst, hothers⟩ := List.forall_mem_cons.mp h
    have hset := extends_set_file header.toUTF8 placeIn_ne_nil
      (isFilePath_of_unblocked hbase hname hfirst).2
    have hblocked := blocked?_set hfirst header.toUTF8
    obtain ⟨hextends, hsame⟩ := ih (hbase.mono hset) hrest (hblocked ▸ hothers)
    exact ⟨hset.trans hextends, hsame.trans hblocked⟩

/-- Files that could all be started over lie in the directory that the path leads to. -/
theorem startFiles_eq_ok (hbase : d.IsAt t base) (hslash : ∀ name ∈ names, '/' ∉ name.toList)
    (h : (d.startFiles names : StateM FileTree (Except FileFault Unit)).run t = (.ok (), t')) :
    t' = t.setAll (headerRows base names) ∧ t.Extends t' ∧
      ∀ name ∈ names, t'.IsFilePath (d.filePath name) base (name ++ ".lua") := by
  rw [run_startFiles_eq hbase hslash] at h
  obtain ⟨hanswer, rfl⟩ := Prod.mk.inj h
  cases hfirst : names.findSome? (d.blocked? t base) with
  | some fault =>
    rw [hfirst] at hanswer
    cases hanswer
  | none =>
    have hfree := List.findSome?_eq_none_iff.mp hfirst
    rw [List.takeWhile_eq_self_iff.mpr fun name hname => by simp [hfree name hname]]
    obtain ⟨hextends, -⟩ := extends_headerRows hbase hslash hfree
    refine ⟨rfl, hextends, fun name hname => hextends.isFilePath ?_⟩
    exact (isFilePath_of_unblocked hbase (hslash name hname) (hfree name hname)).1

variable (d)

theorem run_startFiles (h : ∀ name ∈ names, ∃ bytes, d.HasFile t base name bytes) :
    (d.startFiles names : StateM FileTree (Except FileFault Unit)).run t =
      (.ok (), t.setAll (headerRows base names)) := by
  induction names generalizing t with
  | nil => rfl
  | cons name rest ih =>
    obtain ⟨bytes, hname⟩ := h name List.mem_cons_self
    have hstart := run_startFile (by simp [hname.find]) (hname.write header.toUTF8)
    rw [startFiles, FileTree.run_bind_of_run hstart]
    have hfiles := exists_hasFile_set h List.mem_cons_self header.toUTF8
    exact ih fun name' hmem => hfiles name' (List.mem_cons_of_mem name hmem)

theorem run_prepare {t₁ : FileTree}
    (h : (FileSystem.makeDirectories d.path : StateM FileTree (Except FileFault Unit)).run t =
      (.ok (), t₁)) :
    (d.prepare names : StateM FileTree (Except FileFault Unit)).run t =
      (d.startFiles names : StateM FileTree (Except FileFault Unit)).run t₁ := by
  rw [prepare, FileTree.run_bind_of_run h]

theorem prepare_eq_ok
    (h : (d.prepare names : StateM FileTree (Except FileFault Unit)).run t = (.ok (), t')) :
    ∃ t₁, (FileSystem.makeDirectories d.path :
        StateM FileTree (Except FileFault Unit)).run t = (.ok (), t₁) ∧
      (d.startFiles names : StateM FileTree (Except FileFault Unit)).run t₁ = (.ok (), t') := by
  rcases hmake : (FileSystem.makeDirectories d.path :
    StateM FileTree (Except FileFault Unit)).run t with ⟨answer, t₁⟩
  cases answer with
  | error fault =>
    rw [prepare, FileTree.run_bind_of_run hmake] at h
    cases h
  | ok _ => exact ⟨t₁, rfl, (run_prepare d hmake).symm.trans h⟩

end StubDirectory

end NativeStubs
