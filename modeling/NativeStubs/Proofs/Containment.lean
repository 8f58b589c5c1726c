import NativeStubs.Proofs.Journal
import NativeStubs.Proofs.Trace

/-! # Where a run writes

A run over a stub directory changes files only directly below it, a file of its own for each
namespace, as long as no name has a slash. A name with a slash leads elsewhere.
-/

namespace NativeStubs

open Json

namespace StubDirectory

variable (d : StubDirectory) {t t' : FileTree} {base base' : Place} {name : String}
  {names : List String} {j j' j'' : Journal}

/-- An edit of the file of a namespace. A name without a slash has its file in the directory. -/
structure Owns (t : FileTree) (names : List String) (edit : Edit) : Prop where
  path : ∃ name ∈ names, edit.path = d.filePath name
  place : ∀ name, '/' ∉ name.toList → edit.path = d.filePath name →
    ∃ base, d.IsAt t base ∧ edit.place = placeIn base name

theorem Owns.mono {edit : Edit} (hextends : t.Extends t') (h : d.Owns t names edit) :
    d.Owns t' names edit where
  path := h.path
  place name hslash hpath :=
    (h.place name hslash hpath).imp fun _ => And.imp_left (IsAt.mono hextends)

/-- Between two journals there are edits of the files of some namespaces, and directories were made
for the path of the stub directory. Nothing else has changed. -/
structure Contained (names : List String) (j j' : Journal) : Prop where
  tree : j.tree.Extends j'.tree
  edits : ∃ new, j'.edits = j.edits ++ new ∧ ∀ edit ∈ new, d.Owns j'.tree names edit
  frame : ∀ place, place ∈ j'.edits.map Edit.place ∨
    FileTree.GrowsAt (Path.ancestors d.path) j.tree j'.tree place

theorem Contained.trans (h : d.Contained names j j') (h' : d.Contained names j' j'') :
    d.Contained names j j'' where
  tree := h.tree.trans h'.tree
  edits := by
    obtain ⟨new, hnew, howns⟩ := h.edits
    obtain ⟨new', hnew', howns'⟩ := h'.edits
    refine ⟨new ++ new', by rw [hnew', hnew, List.append_assoc], fun edit hmem => ?_⟩
    rcases List.mem_append.mp hmem with hmem | hmem
    · exact (howns edit hmem).mono d h'.tree
    · exact howns' edit hmem
  frame place := by
    rcases h'.frame place with hedit | hgrows'
    · exact Or.inl hedit
    · obtain ⟨new', hnew', -⟩ := h'.edits
      refine (h.frame place).imp (fun hedit => ?_) fun hgrows => hgrows.trans h'.tree hgrows'
      rw [hnew', List.map_append]
      exact List.mem_append_left _ hedit

theorem chains_contained (names : List String) : Journal.Chains (d.Contained names) where
  refl j := ⟨.refl _, ⟨[], by simp, by simp⟩, fun _ => Or.inr (Or.inl rfl)⟩
  trans h h' := h.trans d h'

theorem allowsDirectory_contained {path : String} (hpath : path ∈ Path.ancestors d.path) :
    Journal.AllowsDirectory (d.Contained names) path := by
  intro j tree hmake
  have hgrows := (FileTree.makeDirectory_eq_ok hmake).1.mono (by simpa using hpath)
  exact ⟨hgrows.toExtends, ⟨[], by simp, by simp⟩, fun place => Or.inr (hgrows place)⟩

theorem allowsEdit_contained (kind : EditKind) (hname : name ∈ names) :
    Journal.AllowsEdit (d.Contained names) kind (d.filePath name) := by
  intro j place old hopen bytes
  obtain ⟨parent, file, rfl, hpath, hplace⟩ := FileTree.openFile_eq_ok hopen
  have hne : parent ++ [file] ≠ [] := by simp
  have hextends : j.tree.Extends
      (j.record ⟨kind, d.filePath name, parent ++ [file], bytes⟩ old).tree :=
    FileTree.extends_set_file _ hne hplace
  refine ⟨hextends, ⟨_, rfl, List.forall_mem_singleton.mpr ⟨⟨name, hname, rfl⟩, ?_⟩⟩, fun p => ?_⟩
  · -- Another name may have the same path, and what is shown of the place holds for each of them.
    intro name' hslash hsame
    dsimp only at hsame
    rw [hsame] at hpath
    have hwalk := hpath.walk
    have hlast := hpath.last
    rw [names_filePath d hslash, List.dropLast_concat] at hwalk
    rw [names_filePath d hslash, List.getLast?_concat] at hlast
    obtain rfl := Option.some.inj hlast
    exact ⟨parent, IsAt.mono hextends ⟨hwalk, hpath.directory⟩, rfl⟩
  · by_cases hp : p = parent ++ [file]
    · exact Or.inl (by simp [Journal.record, hp])
    · exact Or.inr (Or.inl (FileTree.get?_set_of_ne hp))

theorem allowsRun_contained (names : List String) :
    Journal.AllowsRun (d.Contained names) d names :=
  { d.chains_contained names with
    directory := fun _ => d.allowsDirectory_contained
    start := fun _ => d.allowsEdit_contained .write
    append := fun _ => d.allowsEdit_contained .append }

/-- Where no name has a slash, every file that a run writes or adds to lies directly in the stub
directory, and no two namespaces have the same one. No other place changes, except that directories
are made where nothing was, for the path of the directory and those above it. -/
theorem run_stays_in_directory (g : Generator) (d : StubDirectory) (c : Catalog)
    (hslash : ∀ name ∈ c.names, '/' ∉ name.toList) (t : FileTree) :
    ∃ answer j, (g.run d.writer c : StateM Journal (Except Error Report)).run { tree := t } =
        (answer, j) ∧
      (g.run d.writer c : StateM FileTree (Except Error Report)).run t = (answer, j.tree) ∧
      (∀ edit ∈ j.edits, ∃ base, d.IsAt j.tree base ∧
        ∃ name ∈ c.names, edit.path = d.filePath name ∧ edit.place = base ++ [name ++ ".lua"]) ∧
      (∀ edit ∈ j.edits, ∀ edit' ∈ j.edits, ∀ name ∈ c.names, ∀ name' ∈ c.names,
        edit.path = d.filePath name → edit'.path = d.filePath name' →
          edit.place = edit'.place → name = name') ∧
      ∀ place, (∀ base, d.IsAt j.tree base → ∀ name ∈ c.names, place ≠ base ++ [name ++ ".lua"]) →
        j.tree.get? place = t.get? place ∨
          t.get? place = none ∧ j.tree.get? place = some .directory ∧
            ∃ path ∈ Path.ancestors d.path, j.tree.LeadsTo path place := by
  have hfollows := Journal.follows_run g c (d.allowsRun_contained c.names)
  have htree := hfollows.run_eq { tree := t }
  obtain ⟨-, ⟨new, hnew, howns⟩, hframe⟩ := hfollows.related { tree := t }
  generalize (g.run d.writer c : StateM Journal (Except Error Report)).run { tree := t } = result
    at htree hnew howns hframe ⊢
  obtain ⟨answer, j⟩ := result
  obtain rfl : j.edits = new := hnew
  have hplace : ∀ edit ∈ j.edits, ∀ name ∈ c.names, edit.path = d.filePath name →
      ∃ base, d.IsAt j.tree base ∧ edit.place = placeIn base name :=
    fun edit hedit name hname => (howns edit hedit).place name (hslash name hname)
  refine ⟨answer, j, rfl, htree, fun edit hedit => ?_, ?_, fun place hother => ?_⟩
  · obtain ⟨name, hname, hpath⟩ := (howns edit hedit).path
    obtain ⟨base, hbase, hin⟩ := hplace edit hedit name hname hpath
    exact ⟨base, hbase, name, hname, hpath, hin⟩
  · intro edit hedit edit' hedit' name hname name' hname' hpath hpath' hsame
    obtain ⟨base, hbase, hin⟩ := hplace edit hedit name hname hpath
    obtain ⟨base', hbase', hin'⟩ := hplace edit' hedit' name' hname' hpath'
    rw [hin, hin', hbase.unique hbase'] at hsame
    exact placeIn_inj.mp hsame
  · rcases hframe place with hedit | hsame | ⟨hnone, hnew, path, hpath, hfind⟩
    · obtain ⟨edit, hmem, rfl⟩ := List.mem_map.mp hedit
      obtain ⟨name, hname, hpath⟩ := (howns edit hmem).path
      obtain ⟨base, hbase, hin⟩ := hplace edit hmem name hname hpath
      exact absurd hin (hother base hbase name hname)
    · exact Or.inl hsame
    · exact Or.inr ⟨hnone, hnew, path, hpath, _, hfind⟩

/-- A directory for stubs with a file beside it. -/
def notesTree : FileTree :=
  ⟨[(["out"], .directory), (["notes.lua"], .file "kept".toUTF8)]⟩

theorem run_stays_in_directory_notes : (∀ name ∈ Generator.mixedCatalog.names, '/' ∉ name.toList) ∧
    ∃ answer j, ((Config.generator {}).run (⟨"out"⟩ : StubDirectory).writer Generator.mixedCatalog :
        StateM Journal (Except Error Report)).run { tree := notesTree } = (answer, j) ∧
      j.edits.isEmpty = false ∧
      (∀ edit ∈ j.edits, ∃ base, (⟨"out"⟩ : StubDirectory).IsAt j.tree base ∧
        ∃ name ∈ Generator.mixedCatalog.names, edit.place = base ++ [name ++ ".lua"]) ∧
      j.tree.get? ["notes.lua"] = some (.file "kept".toUTF8) := by
  have hslash : ∀ name ∈ Generator.mixedCatalog.names, '/' ∉ name.toList := by decide
  have hedits : ((((Config.generator {}).run (⟨"out"⟩ : StubDirectory).writer
      Generator.mixedCatalog : StateM Journal (Except Error Report)).run
        { tree := notesTree }).2.edits.isEmpty) = false := by decide +kernel
  obtain ⟨answer, j, hrun, -, hplaces, -, hframe⟩ := run_stays_in_directory (Config.generator {})
    ⟨"out"⟩ Generator.mixedCatalog hslash notesTree
  rw [hrun] at hedits
  have hnotes : ∀ base, (⟨"out"⟩ : StubDirectory).IsAt j.tree base →
      ∀ name ∈ Generator.mixedCatalog.names, ["notes.lua"] ≠ base ++ [name ++ ".lua"] := by
    have hnames : ∀ name ∈ Generator.mixedCatalog.names, "notes.lua" ≠ name ++ ".lua" := by decide
    intro base _ name hname heq
    have hlast := congrArg List.getLast? heq
    rw [List.getLast?_concat] at hlast
    exact hnames name hname (Option.some.inj hlast)
  refine ⟨hslash, answer, j, hrun, hedits, fun edit hedit => ?_, ?_⟩
  · obtain ⟨base, hbase, name, hname, -, hplace⟩ := hplaces edit hedit
    exact ⟨base, hbase, name, hname, hplace⟩
  · exact (hframe _ hnotes).resolve_right fun hnew => nomatch hnew.1

/-- A catalog with a name that leads out of a directory and two names for one file. -/
def escapingCatalog : Catalog :=
  ⟨[("../notes", .object []), ("PED", .object []), ("./PED", .object [])]⟩

/-- The journal of a run with that catalog. -/
def escapingRun : Journal :=
  (((Config.generator {}).run (⟨"out"⟩ : StubDirectory).writer escapingCatalog :
    StateM Journal (Except Error Report)).run { tree := notesTree }).2

/-- A file above the stub directory is overwritten, and two namespaces share a file. -/
theorem run_escapes_directory :
    (⟨"out"⟩ : StubDirectory).IsAt escapingRun.tree ["out"] ∧
      notesTree.get? ["notes.lua"] = some (.file "kept".toUTF8) ∧
      escapingRun.tree.get? ["notes.lua"] = some (.file header.toUTF8) ∧
      (∃ edit ∈ escapingRun.edits, edit.place = ["notes.lua"]) ∧
      ∃ edit ∈ escapingRun.edits, ∃ edit' ∈ escapingRun.edits,
        edit.path = (⟨"out"⟩ : StubDirectory).filePath "PED" ∧
          edit'.path = (⟨"out"⟩ : StubDirectory).filePath "./PED" ∧
          edit.place = edit'.place := by
  have hnotes : (escapingRun.edits.any fun edit => edit.place = ["notes.lua"]) = true := by
    decide +kernel
  have hplain : (escapingRun.edits.any fun edit =>
      edit.path = (⟨"out"⟩ : StubDirectory).filePath "PED" ∧ edit.place = ["out", "PED.lua"]) =
        true := by decide +kernel
  have hdotted : (escapingRun.edits.any fun edit =>
      edit.path = (⟨"out"⟩ : StubDirectory).filePath "./PED" ∧ edit.place = ["out", "PED.lua"]) =
        true := by decide +kernel
  simp only [List.any_eq_true, decide_eq_true_eq] at hnotes hplain hdotted
  obtain ⟨edit, hedit, hpath, hplace⟩ := hplain
  obtain ⟨edit', hedit', hpath', hplace'⟩ := hdotted
  have hwalk : (escapingRun.tree.walk (Path.names "out")).toOption = some ["out"] := by
    decide +kernel
  have hdirectory : escapingRun.tree.get? ["out"] = some .directory := by decide +kernel
  refine ⟨⟨?_, hdirectory⟩, by decide, by decide +kernel, hnotes, edit, hedit, edit', hedit', hpath,
    hpath', hplace.trans hplace'.symm⟩
  cases hresult : escapingRun.tree.walk (Path.names "out") with
  | error fault =>
    rw [hresult] at hwalk
    cases hwalk
  | ok place =>
    rw [hresult] at hwalk
    exact congrArg Except.ok (Option.some.inj hwalk)

end StubDirectory

end NativeStubs
