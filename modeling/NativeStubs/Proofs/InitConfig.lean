import NativeStubs.Command.Run
import NativeStubs.Proofs.ConfigFile
import NativeStubs.Proofs.Parents
import NativeStubs.Proofs.Reading

/-! # Writing the configuration file

A configuration is written to the working directory only if nothing is there under the name of the
configuration file. What was written is what is loaded and shown from then on.
-/

namespace NativeStubs

namespace FileTree

variable {t t' : FileTree} {path name : String} {base parent : Place} {entry : Entry}
  {bytes : ByteArray}

theorem run_exists? (path : String) (t : FileTree) :
    (FileSystem.exists? path : StateM FileTree Bool).run t =
      ((t.find path).toOption.isSome, t) := by
  rw [FileSystem.exists?, run_bind_of_run (run_kind path t)]
  cases t.find path <;> rfl

theorem run_isFile (path : String) (t : FileTree) :
    (FileSystem.isFile path : StateM FileTree Bool).run t =
      ((t.find path).toOption.any fun found => found.2.kind == .file, t) := by
  rw [FileSystem.isFile, run_bind_of_run (run_kind path t)]
  cases t.find path <;> rfl

/-- A directory that a command can run in: it is there, and the path of the configuration file in it
is one that the file system takes. -/
structure IsWorkingDirectory (t : FileTree) (dir : String) (base : Place) : Prop where
  walk : t.walk (Path.names dir) = .ok base
  directory : t.get? base = some .directory
  noFault : pathFault? (Path.join dir Config.fileName) = none

/-- Relative paths start at the root, in every tree. -/
theorem isWorkingDirectory_root (t : FileTree) : t.IsWorkingDirectory "" [] where
  walk := rfl
  directory := rfl
  noFault := by decide

namespace IsWorkingDirectory

theorem mono (h : t.IsWorkingDirectory path base) (hextends : t.Extends t') :
    t'.IsWorkingDirectory path base where
  walk := hextends.foldlM_step _ h.walk
  directory := hextends.directory _ h.directory
  noFault := h.noFault

theorem isFilePath (h : t.IsWorkingDirectory path base) :
    t.IsFilePath (Path.join path Config.fileName) base Config.fileName := by
  have hslash : '/' ∉ Config.fileName.toList := by decide
  have hne : Config.fileName ≠ "" := by decide
  have hnames := Path.names_join path hslash hne
  exact
    { noFault := h.noFault
      walk := by rw [hnames, List.dropLast_concat, h.walk]
      directory := h.directory
      last := by rw [hnames, List.getLast?_concat]
      notDot := by decide
      noSlash := Path.endsInSlash_join path hslash hne
      short := by decide }

theorem reachesFirst (h : t.IsWorkingDirectory path base) :
    t.ReachesFirst (Path.parents (Path.join path Config.fileName)) :=
  reachesFirst_parents_join (by decide) (by decide) (by decide) h.walk h.directory h.noFault

end IsWorkingDirectory

end FileTree

open FileTree

namespace Config

variable {c : Config} {t : FileTree} {dir text : String} {base : Place}

theorem parse_toToml (h : c.validate = .ok ()) : parse c.toToml = .ok c := by
  have hparse := parse_document_without h []
  rwa [without_nil, reset_nil] at hparse

theorem validate_of_parse (h : parse text = .ok c) : c.validate = .ok () := by
  unfold parse at h
  split at h
  · cases h
  · next c' _ =>
    obtain ⟨_, hvalid, rfl⟩ := map_eq_ok_iff.mp h
    exact hvalid

theorem validate_of_load {path : String} (h : t.answer (load path) = .ok c) :
    c.validate = .ok () := by
  rw [load, (readOnly_readText path).answer_bind] at h
  cases htext : t.answer (FileSystem.readText path) with
  | error fault =>
    rw [htext] at h
    cases h
  | ok text =>
    rw [htext] at h
    exact validate_of_parse h

theorem run_loadOrDefault_none (dir : String) (t : FileTree) :
    (loadOrDefault none dir : StateM FileTree (Except Error Config)).run t =
      if (t.find (Path.join dir fileName)).toOption.any fun found => found.2.kind == .file then
        (load (Path.join dir fileName) : StateM FileTree (Except Error Config)).run t
      else (.ok {}, t) := by
  rw [loadOrDefault, run_bind_of_run (run_isFile _ t)]
  split_ifs <;> rfl

/-- The configuration whose document the file in the working directory holds is loaded. -/
theorem loadOrDefault_of_file (hdir : t.IsWorkingDirectory dir base)
    (hfile : t.get? (base ++ [fileName]) = some (.file c.toToml.toUTF8))
    (hc : c.validate = .ok ()) : t.answer (loadOrDefault none dir) = .ok c := by
  have hfind := find_of_isFilePath hdir.isFilePath hfile
  have hread : t.read (Path.join dir fileName) = .ok c.toToml.toUTF8 := by
    rw [FileTree.read, hfind]
  have hfound : ((t.find (Path.join dir fileName)).toOption.any fun found =>
      found.2.kind == .file) = true := by
    rw [hfind]
    rfl
  rw [answer, run_loadOrDefault_none, if_pos hfound, run_load hread, parse_toToml hc]

/-- Every configuration that is loaded has been checked, and the default one passes the check. -/
theorem validate_of_loadOrDefault {explicit : Option String}
    (h : t.answer (loadOrDefault explicit dir) = .ok c) : c.validate = .ok () := by
  cases explicit with
  | some path => exact validate_of_load h
  | none =>
    rw [answer, run_loadOrDefault_none] at h
    split_ifs at h
    · exact validate_of_load h
    · cases h
      decide +kernel

/-- A file that is not there yet is made with the document of the configuration. -/
theorem run_save_new {path name : String} (c : Config) (hfile : t.IsFilePath path base name)
    (habove : t.ReachesFirst (Path.parents path)) (hnone : t.get? (base ++ [name]) = none) :
    (c.save path : StateM FileTree (Except Error Unit)).run t =
      (.ok (), t.set (base ++ [name]) (.file c.toToml.toUTF8)) := by
  have hwrite : t.write path c.toToml.toUTF8 =
      .ok (t.set (base ++ [name]) (.file c.toToml.toUTF8)) := by
    rw [FileTree.write, openFile_of_get?_eq_none hfile hnone]
    rfl
  rw [save, run_bind_of_run (run_makeAncestors_of_reachesFirst habove)]
  dsimp only
  rw [run_bind_of_run (run_writeText_eq_ok_iff.mpr hwrite)]
  rfl

end Config

namespace ConfigOptions

variable {t : FileTree} {o : ConfigOptions} {c : Config} {dir : String} {base : Place}

theorem run_saveIfMissing_of_isSome (c : Config) (hdir : t.IsWorkingDirectory dir base)
    (hsome : (t.get? (base ++ [Config.fileName])).isSome) :
    (saveIfMissing c dir : StateM FileTree (Except Error Unit)).run t = (.ok (), t) := by
  obtain ⟨entry, hfind⟩ := exists_find_of_isSome_get? hdir.isFilePath hsome
  rw [saveIfMissing, run_bind_of_run (run_exists? _ t), hfind]
  rfl

theorem run_saveIfMissing_of_none (c : Config) (hdir : t.IsWorkingDirectory dir base)
    (hnone : t.get? (base ++ [Config.fileName]) = none) :
    (saveIfMissing c dir : StateM FileTree (Except Error Unit)).run t =
      (.ok (), t.set (base ++ [Config.fileName]) (.file c.toToml.toUTF8)) := by
  rw [saveIfMissing, run_bind_of_run (run_exists? _ t), find_of_get?_eq_none hdir.isFilePath hnone]
  exact Config.run_save_new c hdir.isFilePath hdir.reachesFirst hnone

theorem run_of_load_error {error : Error}
    (hload : t.answer (Config.loadOrDefault o.config dir) = .error error) :
    (o.run dir : StateM FileTree (Except CommandFault String)).run t =
      (.error (.failure error), t) := by
  rw [run, (Config.readOnly_loadOrDefault o.config dir).run_bind, hload]
  rfl

theorem run_show (hinit : o.init = false)
    (hload : t.answer (Config.loadOrDefault o.config dir) = .ok c) :
    (o.run dir : StateM FileTree (Except CommandFault String)).run t = (.ok c.toToml, t) := by
  rw [run, (Config.readOnly_loadOrDefault o.config dir).run_bind, hload]
  dsimp only
  rw [if_neg (by simp [hinit])]
  rfl

theorem run_init {t' : FileTree} (hinit : o.init = true)
    (hload : t.answer (Config.loadOrDefault o.config dir) = .ok c)
    (hsave : (saveIfMissing c dir : StateM FileTree (Except Error Unit)).run t = (.ok (), t')) :
    (o.run dir : StateM FileTree (Except CommandFault String)).run t = (.ok c.toToml, t') := by
  rw [run, (Config.readOnly_loadOrDefault o.config dir).run_bind, hload]
  dsimp only
  rw [if_pos hinit, run_bind_of_run hsave]
  rfl

end ConfigOptions

namespace Command

section Init

variable [Network] {arguments : List String} {file? : Option String} {dir : String} {t : FileTree}
  {base : Place}

theorem runLine_init_snd_of_isSome
    (hparse : parse arguments = .ok (.config { config := file?, init := true }))
    (hdir : t.IsWorkingDirectory dir base)
    (hsome : (t.get? (base ++ [Config.fileName])).isSome) :
    ((runLine dir arguments : StateM FileTree Outcome).run t).2 = t := by
  cases hload : t.answer (Config.loadOrDefault file? dir) with
  | error error => rw [runLine_of_run hparse (ConfigOptions.run_of_load_error hload)]
  | ok c =>
    have hsave := ConfigOptions.run_saveIfMissing_of_isSome c hdir hsome
    rw [runLine_of_run hparse (ConfigOptions.run_init rfl hload hsave)]

/-- A request to write the configuration file leaves the tree as it is if something has the name of
that file, or if the configuration cannot be loaded. Otherwise it adds that one file, with the text
that it prints, which reads back as the configuration. From then on the same text is shown, and
further requests change nothing. -/
theorem init_writes_once
    (hparse : parse arguments = .ok (.config { config := file?, init := true }))
    (hdir : t.IsWorkingDirectory dir base) :
    ((t.get? (base ++ [Config.fileName])).isSome →
      ((runLine dir arguments : StateM FileTree Outcome).run t).2 = t) ∧
    (∀ error, t.answer (Config.loadOrDefault file? dir) = .error error →
      ((runLine dir arguments : StateM FileTree Outcome).run t).2 = t) ∧
    ∀ c, t.get? (base ++ [Config.fileName]) = none →
      t.answer (Config.loadOrDefault file? dir) = .ok c →
        ∃ output t', (runLine dir arguments : StateM FileTree Outcome).run t = (.done output, t') ∧
          Config.parse output = .ok c ∧
          t'.get? (base ++ [Config.fileName]) = some (.file output.toUTF8) ∧
          (∀ place ≠ base ++ [Config.fileName], t'.get? place = t.get? place) ∧
          (runLine dir ["config"] : StateM FileTree Outcome).run t' = (.done output, t') ∧
          ∀ again file?', parse again = .ok (.config { config := file?', init := true }) →
            ((runLine dir again : StateM FileTree Outcome).run t').2 = t' := by
  refine ⟨runLine_init_snd_of_isSome hparse hdir, fun error hload => ?_, fun c hnone hload => ?_⟩
  · rw [runLine_of_run hparse (ConfigOptions.run_of_load_error hload)]
  · have hsave := ConfigOptions.run_saveIfMissing_of_none c hdir hnone
    have hrun := runLine_of_run hparse (ConfigOptions.run_init rfl hload hsave)
    have hwritten (place : Place) :
        (t.set (base ++ [Config.fileName]) (.file c.toToml.toUTF8)).get? place =
          if place = base ++ [Config.fileName] then some (.file c.toToml.toUTF8)
          else t.get? place := get?_set (by simp) place
    -- Nothing was there, so the new tree extends the old one and the directory is found in it.
    have hdir' := hdir.mono (extends_set_new hnone (.file c.toToml.toUTF8))
    generalize t.set (base ++ [Config.fileName]) (.file c.toToml.toUTF8) = t' at *
    have hfile : t'.get? (base ++ [Config.fileName]) = some (.file c.toToml.toUTF8) := by
      rw [hwritten, if_pos rfl]
    have hvalid := Config.validate_of_loadOrDefault hload
    have hreload : t'.answer (Config.loadOrDefault none dir) = .ok c :=
      Config.loadOrDefault_of_file hdir' hfile hvalid
    have hplain : parse ["config"] = .ok (.config {}) := rfl
    refine ⟨c.toToml, t', hrun, Config.parse_toToml hvalid, hfile,
      fun place hne => by rw [hwritten, if_neg hne], ?_, ?_⟩
    · exact runLine_of_run hplain (ConfigOptions.run_show rfl hreload)
    · exact fun again file?' hagain => runLine_init_snd_of_isSome hagain hdir' (by rw [hfile]; rfl)

end Init

/-- A tree with a configuration under another name. -/
def stubsTree : FileTree := ⟨[(["stubs.toml"], .file "output_dir = \"stubs\"\n".toUTF8)]⟩

theorem init_writes_once_stubs :
    parse ["config", "-c", "stubs.toml", "--init"] =
      .ok (.config { config := some "stubs.toml", init := true }) ∧
    stubsTree.IsWorkingDirectory "" [] ∧
    ∃ output t', (runLine "" ["config", "-c", "stubs.toml", "--init"] :
        StateM FileTree Outcome).run stubsTree = (.done output, t') ∧
      Config.parse output = .ok { outputDir := "stubs" } ∧
      t'.get? ["natdoc.toml"] = some (.file output.toUTF8) ∧
      (runLine "" ["config"] : StateM FileTree Outcome).run t' = (.done output, t') ∧
      ((runLine "" ["config", "--init"] : StateM FileTree Outcome).run t').2 = t' := by
  have hparse : parse ["config", "-c", "stubs.toml", "--init"] =
      .ok (.config { config := some "stubs.toml", init := true }) := by decide +kernel
  have hagain : parse ["config", "--init"] = .ok (.config { config := none, init := true }) := by
    decide +kernel
  have hloads : (stubsTree.answer (Config.loadOrDefault (some "stubs.toml") "")).toOption =
      some { outputDir := "stubs" } := by decide +kernel
  have hdir := isWorkingDirectory_root stubsTree
  obtain ⟨-, -, hwrites⟩ := init_writes_once hparse hdir
  cases hload : stubsTree.answer (Config.loadOrDefault (some "stubs.toml") "") with
  | error error =>
    rw [hload] at hloads
    cases hloads
  | ok c =>
    obtain ⟨output, t', hrun, hread, hfile, -, hshow, honce⟩ := hwrites c (by decide) hload
    rw [hload] at hloads
    obtain rfl := Option.some.inj hloads
    exact ⟨hparse, hdir, output, t', hrun, hread, hfile, hshow, honce _ _ hagain⟩

end Command

end NativeStubs
