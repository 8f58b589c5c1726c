import NativeStubs.Proofs.StubDirectory
import NativeStubs.Proofs.Trace

/-! # The files of a run

A run that is not refused leaves the file of each namespace with the header and the declarations
of that namespace, whatever it held before. All other files stay, and no other entries appear but
the directory and those above it.
-/

namespace NativeStubs

open Json

namespace Generator

open StubDirectory

variable (g : Generator) (d : StubDirectory) {t t' : FileTree} {base : Place}

/-- The file of a namespace that has declarations. -/
def stubRow? (base : Place) (field : String × Value) : Option (Place × Entry) :=
  match g.build field.1 field.2 with
  | .ok o => some (placeIn base field.1, .file (header ++ o.text).toUTF8)
  | .error _ => none

theorem stubRow?_of_ok {name : String} {v : Value} {o : NamespaceOutput}
    (h : g.build name v = .ok o) :
    g.stubRow? base (name, v) = some (placeIn base name, .file (header ++ o.text).toUTF8) := by
  simp [stubRow?, h]

theorem stubRow?_of_error {name : String} {v : Value} {error : Error}
    (h : g.build name v = .error error) : g.stubRow? base (name, v) = none := by
  simp [stubRow?, h]

theorem stubRow?_eq_some {field : String × Value} {row : Place × Entry}
    (h : g.stubRow? base field = some row) :
    ∃ o, g.build field.1 field.2 = .ok o ∧
      row = (placeIn base field.1, .file (header ++ o.text).toUTF8) := by
  unfold stubRow? at h
  split at h
  · next o hbuild => exact ⟨o, hbuild, (Option.some.inj h).symm⟩
  · cases h

/-- What a run does to the files. -/
def stubRows (base : Place) (c : Catalog) : List (Place × Entry) :=
  headerRows base c.names ++ c.namespaces.filterMap (g.stubRow? base)

theorem run_writer_prepare {names : List String} {answer : Except FileFault Unit}
    (h : (d.prepare names : StateM FileTree (Except FileFault Unit)).run t = (answer, t')) :
    (d.writer.prepare names : StateM FileTree (Except Error Unit)).run t =
      (answer.mapError .io, t') := by
  rw [writer, StateT.run_map, h]
  rfl

theorem run_writer_write_of_append {name text : String}
    (h : t.append (d.filePath name) text.toUTF8 = .ok t') :
    (d.writer.write name text : StateM FileTree (Except Error Unit)).run t = (.ok (), t') := by
  have hrun : (d.append name text : StateM FileTree (Except FileFault Unit)).run t =
      (.ok (), t') := FileTree.run_change_of_ok h
  rw [writer, StateT.run_map, hrun]
  rfl

theorem run_writer_write {name old : String} (h : d.HasFile t base name old.toUTF8)
    (text : String) : (d.writer.write name text : StateM FileTree (Except Error Unit)).run t =
      (.ok (), t.set (placeIn base name) (.file (old ++ text).toUTF8)) := by
  have hbytes : old.toUTF8 ++ text.toUTF8 = (old ++ text).toUTF8 := String.toByteArray_append.symm
  exact run_writer_write_of_append d (hbytes ▸ h.append text.toUTF8)

theorem run_runNamespaces_writer (r : Report) {fields : Fields Value} (hkeys : fields.keys.Nodup)
    (h : ∀ name ∈ fields.keys, d.HasFile t base name header.toUTF8) :
    (g.runNamespaces d.writer r fields : StateM FileTree Report).run t =
      (g.settle (fun _ => none) r fields, t.setAll (fields.filterMap (g.stubRow? base))) := by
  induction fields generalizing r t with
  | nil =>
    rw [settle_nil]
    rfl
  | cons field rest ih =>
    obtain ⟨name, v⟩ := field
    obtain ⟨hname, hrest⟩ := List.nodup_cons.mp hkeys
    obtain ⟨hfile, hfiles⟩ := List.forall_mem_cons.mp h
    cases hbuild : g.build name v with
    | error error =>
      rw [runNamespaces_cons_of_error g _ hbuild, settle_cons_of_error g hbuild,
        List.filterMap_cons_none (g.stubRow?_of_error hbuild), ih _ hrest hfiles]
    | ok o =>
      have hfiles' : ∀ name' ∈ Fields.keys rest,
          d.HasFile (t.set (placeIn base name) (.file (header ++ o.text).toUTF8)) base name'
            header.toUTF8 := by
        intro name' hmem
        have hne : name' ≠ name := fun heq => hname (heq ▸ hmem)
        exact (hfiles name' hmem).set_of_ne hfile hne _
      rw [runNamespaces_cons_of_ok g _ hbuild, settle_cons_of_ok g hbuild,
        List.filterMap_cons_some (g.stubRow?_of_ok hbuild),
        FileTree.run_bind_of_run (run_writer_write d hfile o.text), ih _ hrest hfiles']
      rfl

/-- The text of the file of a namespace. -/
def stub (name : String) (v : Value) : String :=
  match g.build name v with
  | .ok o => header ++ o.text
  | .error _ => header

theorem sublist_stubRow? (base : Place) (fields : Fields Value) :
    ((fields.filterMap (g.stubRow? base)).map Prod.fst).Sublist
      (fields.keys.map (placeIn base)) := by
  rw [Fields.keys, List.map_map]
  refine sublist_map_filterMap (fun field row h => ?_) fields
  obtain ⟨o, -, rfl⟩ := g.stubRow?_eq_some h
  rfl

theorem filesOf_stubRow? (base : Place) (c : Catalog) :
    FilesOf base c.names (c.namespaces.filterMap (g.stubRow? base)) := by
  intro row hrow
  obtain ⟨field, hfield, hsome⟩ := List.mem_filterMap.mp hrow
  obtain ⟨o, _, rfl⟩ := g.stubRow?_eq_some hsome
  exact ⟨field.1, List.mem_map_of_mem hfield, _, rfl⟩

theorem filesOf_stubRows (base : Place) (c : Catalog) :
    FilesOf base c.names (g.stubRows base c) := fun row hrow =>
  (List.mem_append.mp hrow).elim (filesOf_headerRows base c.names row)
    (g.filesOf_stubRow? base c row)

variable {g d} {c : Catalog} {name : String} {v : Value}

theorem notMem_stubRow? {error : Error} (hc : c.names.Nodup) (h : (name, v) ∈ c.namespaces)
    (hbuild : g.build name v = .error error) :
    placeIn base name ∉ (c.namespaces.filterMap (g.stubRow? base)).map Prod.fst := by
  intro hmem
  obtain ⟨row, hrow, hplace⟩ := List.mem_map.mp hmem
  obtain ⟨field, hfield, hsome⟩ := List.mem_filterMap.mp hrow
  obtain ⟨o, hok, rfl⟩ := g.stubRow?_eq_some hsome
  -- Names are distinct, so the row would be that of the malformed namespace.
  obtain rfl : field = (name, v) := List.inj_on_of_nodup_map hc hfield h (placeIn_inj.mp hplace)
  rw [hbuild] at hok
  cases hok

/-- A malformed namespace keeps the header that its file was started with. -/
theorem get?_stubRows (hc : c.names.Nodup) (h : (name, v) ∈ c.namespaces) :
    (t.setAll (g.stubRows base c)).get? (placeIn base name) =
      some (.file (g.stub name v).toUTF8) := by
  rw [stubRows, FileTree.setAll_append]
  cases hbuild : g.build name v with
  | ok o =>
    have hplaces := (nodup_places base hc).sublist (g.sublist_stubRow? base c.namespaces)
    rw [stub, hbuild]
    exact FileTree.get?_setAll_of_mem placeIn_ne_nil hplaces
      (List.mem_filterMap.mpr ⟨_, h, g.stubRow?_of_ok hbuild⟩)
  | error error =>
    rw [stub, hbuild, FileTree.get?_setAll_of_notMem (notMem_stubRow? hc h hbuild)]
    exact get?_headerRows hc (List.mem_map_of_mem h)

/-- A run that cannot prepare its writer ends there. -/
theorem run_of_refused {fault : FileFault}
    (h : (d.prepare c.names : StateM FileTree (Except FileFault Unit)).run t = (.error fault, t')) :
    (g.run d.writer c : StateM FileTree (Except Error Report)).run t =
      (.error (.io fault), t') := by
  rw [run, FileTree.run_bind_of_run (run_writer_prepare d h)]
  rfl

theorem run_of_runNamespaces {t₁ : FileTree} {report : Report}
    (hp : (d.prepare c.names : StateM FileTree (Except FileFault Unit)).run t = (.ok (), t₁))
    (hrun : (g.runNamespaces d.writer (start c) c.namespaces : StateM FileTree Report).run t₁ =
      (report, t')) :
    (g.run d.writer c : StateM FileTree (Except Error Report)).run t = (.ok report, t') := by
  rw [start] at hrun
  rw [run, FileTree.run_bind_of_run (run_writer_prepare d hp)]
  dsimp only [Except.mapError]
  rw [StateT.run_map, hrun]
  rfl

theorem run_of_prepare {t₁ : FileTree} (hc : c.names.Nodup)
    (hp : (d.prepare c.names : StateM FileTree (Except FileFault Unit)).run t = (.ok (), t₁))
    (hfiles : ∀ name ∈ c.names, d.HasFile t₁ base name header.toUTF8) :
    (g.run d.writer c : StateM FileTree (Except Error Report)).run t =
      (.ok (g.settle (fun _ => none) (start c) c.namespaces),
        t₁.setAll (c.namespaces.filterMap (g.stubRow? base))) :=
  run_of_runNamespaces hp (g.run_runNamespaces_writer d (start c) hc hfiles)

/-- A run that is not refused makes the directory and then sets the rows of its files. -/
theorem run_eq_ok {report : Report} (hc : c.names.Nodup)
    (hslash : ∀ name ∈ c.names, '/' ∉ name.toList)
    (h : (g.run d.writer c : StateM FileTree (Except Error Report)).run t = (.ok report, t')) :
    ∃ t₁ base, FileTree.GrowsBy (Path.ancestors d.path) t t₁ ∧
      t₁.ReachesFirst (Path.ancestors d.path) ∧ t₁.Extends t' ∧
      t' = t₁.setAll (g.stubRows base c) ∧
      (∀ name ∈ c.names, ∃ bytes, d.HasFile t' base name bytes) ∧
      report = g.settle (fun _ => none) (start c) c.namespaces := by
  rcases hprepare : (d.prepare c.names : StateM FileTree (Except FileFault Unit)).run t with
    ⟨answer, t₂⟩
  cases answer with
  | error fault =>
    rw [run_of_refused hprepare] at h
    cases h
  | ok _ =>
    obtain ⟨t₁, hmake, hstart⟩ := prepare_eq_ok d hprepare
    obtain ⟨hgrows, hfirst⟩ := FileTree.makeAncestors_eq_ok hmake
    obtain ⟨base, hbase⟩ := exists_isAt hfirst
    obtain ⟨rfl, hextends, hpaths⟩ := startFiles_eq_ok hbase hslash hstart
    have hheaders : ∀ name ∈ c.names,
        d.HasFile (t₁.setAll (headerRows base c.names)) base name header.toUTF8 :=
      fun name hname => ⟨hpaths name hname, get?_headerRows hc hname⟩
    obtain ⟨hextends', hfiles⟩ := exists_hasFile_setAll
      (fun name hname => ⟨_, hheaders name hname⟩) (g.filesOf_stubRow? base c)
    rw [run_of_prepare hc hprepare hheaders] at h
    obtain ⟨hreport, rfl⟩ := Prod.mk.inj h
    refine ⟨t₁, base, hgrows, hfirst, hextends.trans hextends', ?_, hfiles, ?_⟩
    · rw [stubRows, FileTree.setAll_append]
    · exact (Except.ok.inj hreport).symm

/-- Starting the files over and adding the same declarations again comes to the same files. -/
theorem run_again (hc : c.names.Nodup)
    (hfirst : t.ReachesFirst (Path.ancestors d.path))
    (hfiles : ∀ name ∈ c.names, ∃ bytes, d.HasFile t base name bytes) :
    (g.run d.writer c : StateM FileTree (Except Error Report)).run t =
      (.ok (g.settle (fun _ => none) (start c) c.namespaces), t.setAll (g.stubRows base c)) := by
  have hprepare : (d.prepare c.names : StateM FileTree (Except FileFault Unit)).run t =
      (.ok (), t.setAll (headerRows base c.names)) := by
    rw [run_prepare d (FileTree.run_makeAncestors_of_reachesFirst hfirst), run_startFiles d hfiles]
  obtain ⟨-, hstarted⟩ := exists_hasFile_setAll hfiles (filesOf_headerRows base c.names)
  have hheaders : ∀ name ∈ c.names,
      d.HasFile (t.setAll (headerRows base c.names)) base name header.toUTF8 := by
    intro name hname
    obtain ⟨bytes, hfile⟩ := hstarted name hname
    exact ⟨hfile.isFilePath, get?_headerRows hc hname⟩
  rw [run_of_prepare hc hprepare hheaders, stubRows, FileTree.setAll_append]

/-- Once its files are started over, a run cannot fail to add to them. It leaves the file of every
namespace with the line `---@meta`, an empty line and, unless the namespace is malformed, its
declarations. No other place changes, except that directories are made where nothing was, for the
path of the directory and those above it. So the same run does nothing more when it is repeated. -/
theorem run_writes_stubs (g : Generator) (d : StubDirectory) (c : Catalog) (hc : c.names.Nodup)
    (hslash : ∀ name ∈ c.names, '/' ∉ name.toList) {t t' : FileTree} {report : Report}
    (hrun : (g.run d.writer c : StateM FileTree (Except Error Report)).run t =
      (.ok report, t')) :
    (∀ name records, (name, .object records) ∈ c.namespaces →
      ∃ o, g.build name (.object records) = .ok o ∧
        t'.read (Path.join d.path (name ++ ".lua")) = .ok ("---@meta\n\n" ++ o.text).toUTF8) ∧
    (∀ name v, (name, v) ∈ c.namespaces → v.fields? = none →
      t'.read (Path.join d.path (name ++ ".lua")) = .ok "---@meta\n\n".toUTF8) ∧
    (∀ place, (∀ name ∈ c.names, ¬ t'.LeadsTo (Path.join d.path (name ++ ".lua")) place) →
      t'.get? place = t.get? place ∨
        t.get? place = none ∧ t'.get? place = some .directory ∧
          ∃ path ∈ Path.ancestors d.path, t'.LeadsTo path place) ∧
    (g.run d.writer c : StateM FileTree (Except Error Report)).run t' = (.ok report, t') := by
  obtain ⟨t₁, base, hgrows, hfirst, hextends, ht', hfiles, rfl⟩ := run_eq_ok hc hslash hrun
  have hread : ∀ name v, (name, v) ∈ c.namespaces →
      t'.read (Path.join d.path (name ++ ".lua")) = .ok (g.stub name v).toUTF8 := by
    intro name v hmem
    obtain ⟨bytes, hfile⟩ := hfiles name (List.mem_map_of_mem hmem)
    have hstub : t'.get? (placeIn base name) = some (.file (g.stub name v).toUTF8) := by
      rw [ht', get?_stubRows hc hmem]
    exact HasFile.read ⟨hfile.isFilePath, hstub⟩
  refine ⟨fun name records hmem => ?_, fun name v hmem hv => ?_, fun place hplace => ?_, ?_⟩
  · refine ⟨_, g.build_object name records, ?_⟩
    rw [hread name _ hmem, stub, build_object]
    rfl
  · rw [hread name v hmem, stub, build_eq, hv]
    rfl
  · have hother : place ∉ (g.stubRows base c).map Prod.fst := by
      intro hmem
      obtain ⟨row, hrow, rfl⟩ := List.mem_map.mp hmem
      obtain ⟨name, hname, bytes, rfl⟩ := g.filesOf_stubRows base c _ hrow
      obtain ⟨old, hfile⟩ := hfiles name hname
      exact hplace name hname ⟨_, hfile.find⟩
    have hsame : t'.get? place = t₁.get? place := by
      rw [ht', FileTree.get?_setAll_of_notMem hother]
    rw [hsame]
    refine (hgrows place).imp_right ?_
    rintro ⟨hnone, hnew, path, hpath, hleads⟩
    exact ⟨hnone, hnew, path, hpath, _, hextends.find_directory hleads⟩
  · have hplaces : ∀ row ∈ g.stubRows base c, row.1 ≠ [] := by
      intro row hrow
      obtain ⟨name, _, bytes, rfl⟩ := g.filesOf_stubRows base c _ hrow
      exact placeIn_ne_nil
    have hagain : t'.setAll (g.stubRows base c) = t' := by
      rw [ht', FileTree.setAll_setAll hplaces]
    rw [run_again hc (hfirst.extends hextends) hfiles, hagain]

/-- A directory with an old file of a namespace in it and a file that is none. -/
def staleTree : FileTree :=
  ⟨[(["out"], .directory), (["out", "CAM.lua"], .file "old".toUTF8),
    (["out", "notes.md"], .file "kept".toUTF8)]⟩

def cameraRecords : Fields Value :=
  [("0x4", .object [("params", .array [])]),
   ("0x2", .object [("name", .string "GET_CAM"), ("hash", .string "0x2"),
     ("params", .array [.array [.string "found", .string "Cam*"]])])]

/-- A catalog with two natives in one namespace and with another namespace that is malformed. -/
def cameraCatalog : Catalog := ⟨[("CAM", .object cameraRecords), ("BAD", .null)]⟩

/-- The declarations of the two natives. -/
def cameraText : String :=
  "---**`CAM` `client`**  \n---[Native Documentation](https://docs.fivem.net/natives/?_0x2)  \n" ++
  "---This native does not have an official description.\n---@return number\n" ++
  "function GetCam() end\n\n" ++
  "---**`CAM` `client`**  \n---[Native Documentation](https://docs.fivem.net/natives/?_)  \n" ++
  "---This native does not have an official description.\nfunction N_0x4() end\n\n"

theorem run_writes_stubs_stale : cameraCatalog.names.Nodup ∧
    (∀ name ∈ cameraCatalog.names, '/' ∉ name.toList) ∧
    ∃ report t', ((Config.generator {}).run (⟨"out"⟩ : StubDirectory).writer cameraCatalog :
        StateM FileTree (Except Error Report)).run staleTree = (.ok report, t') ∧
      t'.read "out/CAM.lua" = .ok ("---@meta\n\n" ++ cameraText).toUTF8 ∧
      t'.read "out/BAD.lua" = .ok "---@meta\n\n".toUTF8 ∧
      t'.get? ["out", "notes.md"] = some (.file "kept".toUTF8) ∧
      ((Config.generator {}).run (⟨"out"⟩ : StubDirectory).writer cameraCatalog :
        StateM FileTree (Except Error Report)).run t' = (.ok report, t') := by
  have hc : cameraCatalog.names.Nodup := by decide
  have hslash : ∀ name ∈ cameraCatalog.names, '/' ∉ name.toList := by decide
  have hok : (((Config.generator {}).run (⟨"out"⟩ : StubDirectory).writer cameraCatalog :
      StateM FileTree (Except Error Report)).run staleTree).1.toOption.isSome := by decide +kernel
  have hplaces : ∀ name ∈ cameraCatalog.names,
      ((((Config.generator {}).run (⟨"out"⟩ : StubDirectory).writer cameraCatalog :
        StateM FileTree (Except Error Report)).run staleTree).2.find
          (Path.join "out" (name ++ ".lua"))).toOption.map Prod.fst ≠
        some ["out", "notes.md"] := by decide +kernel
  have htext : ((Config.generator {}).build "CAM" (.object cameraRecords)).toOption.map
      NamespaceOutput.text = some cameraText := by decide +kernel
  rcases hrun : ((Config.generator {}).run (⟨"out"⟩ : StubDirectory).writer cameraCatalog :
    StateM FileTree (Except Error Report)).run staleTree with ⟨answer, t'⟩
  cases answer with
  | error error =>
    rw [hrun] at hok
    cases hok
  | ok report =>
    obtain ⟨hobjects, hmalformed, hframe, hagain⟩ := run_writes_stubs _ _ _ hc hslash hrun
    obtain ⟨o, ho, hcam⟩ := hobjects "CAM" _ (.head _)
    rw [ho] at htext
    have htext : o.text = cameraText := Option.some.inj htext
    rw [htext] at hcam
    have hother : ∀ name ∈ cameraCatalog.names,
        ¬ t'.LeadsTo (Path.join "out" (name ++ ".lua")) ["out", "notes.md"] := by
      rintro name hname ⟨entry, hfind⟩
      refine hplaces name hname ?_
      rw [hrun, hfind]
      rfl
    have hnotes := (hframe _ hother).resolve_right fun hnew => nomatch hnew.1
    exact ⟨hc, hslash, report, t', rfl, hcam, hmalformed "BAD" .null (.tail _ (.head _)) rfl,
      hnotes, hagain⟩

end Generator

end NativeStubs
