import NativeStubs.Proofs.Fields
import NativeStubs.Proofs.Stored
import NativeStubs.Proofs.StubFiles

/-! # Delivery

Once its writer is prepared, a run leaves the declarations of every namespace in the file of that
namespace, whatever the names are. Names that contain slashes may lead to one file; additions to it
follow each other, and none takes anything away. A memory keeps the declarations likewise.
-/

namespace NativeStubs

open Json

namespace FileTree

variable {t t' : FileTree} {path : String} {place : Place} {bytes : ByteArray}
  {old : Option ByteArray}

/-- Writing a file leaves the others, and the paths that lead to that file lead to what is
written. -/
theorem FileAt.set {other : String} (h : t.FileAt path bytes)
    (hopen : t.openFile other = .ok (place, old)) (new : ByteArray) :
    (t.set place (.file new)).FileAt path bytes ∨
      old = some bytes ∧ (t.set place (.file new)).FileAt path new := by
  obtain ⟨parent, name, hpath, hfile⟩ := h
  obtain ⟨parent', name', rfl, hother, hplace⟩ := openFile_eq_ok hopen
  have hne : parent' ++ [name'] ≠ [] := by simp
  have hpath' := (extends_set_file new hne hplace).isFilePath hpath
  by_cases hsame : parent ++ [name] = parent' ++ [name']
  · rw [hsame] at hfile
    rw [openFile_of_isFilePath hother hfile] at hopen
    cases hopen
    exact Or.inr ⟨rfl, parent, name, hpath', by rw [hsame, get?_set hne, if_pos rfl]⟩
  · exact Or.inl ⟨parent, name, hpath', by rw [get?_set_of_ne hsame, hfile]⟩

/-- Every file is still there and begins with what it held. -/
def FilesGrow (t t' : FileTree) : Prop :=
  ∀ path bytes, t.FileAt path bytes → ∃ added, t'.FileAt path (bytes ++ added)

theorem FilesGrow.refl (t : FileTree) : t.FilesGrow t :=
  fun _ _ h => ⟨.empty, by rwa [ByteArray.append_empty]⟩

theorem FilesGrow.trans {t'' : FileTree} (h : t.FilesGrow t') (h' : t'.FilesGrow t'') :
    t.FilesGrow t'' := by
  intro path bytes hfile
  obtain ⟨added, hadded⟩ := h path bytes hfile
  obtain ⟨more, hmore⟩ := h' path _ hadded
  exact ⟨added ++ more, by rwa [← ByteArray.append_assoc]⟩

theorem filesGrow_of_append {added : ByteArray} (h : t.append path added = .ok t') :
    t.FilesGrow t' := by
  obtain ⟨⟨place, old⟩, hopen, rfl⟩ := map_eq_ok_iff.mp h
  intro path' bytes hfile
  rcases hfile.set hopen (old.getD .empty ++ added) with hkept | ⟨rfl, hgrown⟩
  · exact ⟨.empty, by rwa [ByteArray.append_empty]⟩
  · exact ⟨added, hgrown⟩

end FileTree

namespace StubDirectory

open FileTree

variable {d : StubDirectory} {t t' : FileTree} {path : String} {names : List String}

/-- The file of a namespace has a text somewhere. -/
def Holds (d : StubDirectory) (t : FileTree) (name text : String) : Prop :=
  ∃ before after,
    t.read (Path.join d.path (name ++ ".lua")) = .ok (before ++ text.toUTF8 ++ after)

theorem startFile_eq_ok
    (h : (startFile path : StateM FileTree (Except FileFault Unit)).run t = (.ok (), t')) :
    t.write path header.toUTF8 = .ok t' := by
  rw [startFile, run_bind_of_run (run_kind path t)] at h
  cases hfind : t.find path with
  | ok found =>
    rw [hfind] at h
    exact run_writeText_eq_ok_iff.mp h
  | error fault =>
    rw [hfind] at h
    cases fault with
    | notFound => exact run_writeText_eq_ok_iff.mp h
    | _ => cases h

/-- Files that are started over hold the header, and so do those that held it before. -/
theorem fileAt_of_startFiles
    (h : (d.startFiles names : StateM FileTree (Except FileFault Unit)).run t = (.ok (), t')) :
    (∀ path, t.FileAt path header.toUTF8 → t'.FileAt path header.toUTF8) ∧
      ∀ name ∈ names, t'.FileAt (d.filePath name) header.toUTF8 := by
  induction names generalizing t with
  | nil =>
    cases h
    exact ⟨fun _ => id, nofun⟩
  | cons name rest ih =>
    rcases hstart : (startFile (d.filePath name) :
      StateM FileTree (Except FileFault Unit)).run t with ⟨answer, t₁⟩
    rw [startFiles, run_bind_of_run hstart] at h
    cases answer with
    | error fault => cases h
    | ok _ =>
      obtain ⟨⟨place, old⟩, hopen, rfl⟩ := map_eq_ok_iff.mp (startFile_eq_ok hstart)
      obtain ⟨hkeeps, hrest⟩ := ih h
      refine ⟨fun path hfile => hkeeps path ?_, List.forall_mem_cons.mpr ⟨?_, hrest⟩⟩
      · exact (hfile.set hopen header.toUTF8).elim id And.right
      · exact hkeeps _ (.of_openFile hopen header.toUTF8)

end StubDirectory

/-- A memory has a text under the name of a namespace. -/
def Memory.Holds (memory : Memory) (name text : String) : Prop := memory.get? name = some text

namespace Generator

variable (g : Generator) {d : StubDirectory} {t t' : FileTree}

theorem exists_run_writer_write {name : String} {bytes : ByteArray}
    (h : t.FileAt (d.filePath name) bytes) (text : String) :
    ∃ t', (d.writer.write name text : StateM FileTree (Except Error Unit)).run t = (.ok (), t') ∧
      t.FilesGrow t' ∧ t'.FileAt (d.filePath name) (bytes ++ text.toUTF8) := by
  obtain ⟨place, hopen⟩ := h.exists_openFile
  have happend : t.append (d.filePath name) text.toUTF8 =
      .ok (t.set place (.file (bytes ++ text.toUTF8))) := by
    rw [FileTree.append, hopen]
    rfl
  exact ⟨_, run_writer_write_of_append d happend, FileTree.filesGrow_of_append happend,
    .of_openFile hopen _⟩

/-- If every namespace has a file, no text is refused, and each ends up in its file. -/
theorem exists_run_runNamespaces (r : Report) {fields : Fields Value}
    (h : ∀ name ∈ fields.keys, ∃ bytes, t.FileAt (d.filePath name) bytes) :
    ∃ t', (g.runNamespaces d.writer r fields : StateM FileTree Report).run t =
        (g.settle (fun _ => none) r fields, t') ∧ t.FilesGrow t' ∧
      ∀ field ∈ fields, ∀ o, g.build field.1 field.2 = .ok o →
        ∃ before after, t'.FileAt (d.filePath field.1) (before ++ o.text.toUTF8 ++ after) := by
  induction fields generalizing r t with
  | nil =>
    rw [settle_nil]
    exact ⟨t, rfl, .refl t, nofun⟩
  | cons field rest ih =>
    obtain ⟨name, v⟩ := field
    obtain ⟨⟨bytes, hfile⟩, hfiles⟩ := List.forall_mem_cons.mp h
    cases hbuild : g.build name v with
    | error error =>
      obtain ⟨t', hrun, hgrow, htexts⟩ := ih (r.addFailure name error) hfiles
      rw [runNamespaces_cons_of_error g _ hbuild, settle_cons_of_error g hbuild]
      refine ⟨t', hrun, hgrow, List.forall_mem_cons.mpr ⟨fun o ho => ?_, htexts⟩⟩
      rw [hbuild] at ho
      cases ho
    | ok o =>
      obtain ⟨t₁, hwrite, hgrow₁, htext⟩ := exists_run_writer_write hfile o.text
      have hfiles₁ : ∀ name' ∈ Fields.keys rest, ∃ bytes, t₁.FileAt (d.filePath name') bytes := by
        intro name' hmem
        obtain ⟨bytes', hfile'⟩ := hfiles name' hmem
        obtain ⟨added, hadded⟩ := hgrow₁ _ _ hfile'
        exact ⟨_, hadded⟩
      obtain ⟨t', hrun, hgrow, htexts⟩ :=
        ih ((r.addSkipped o).addWritten name o (.ok ())) hfiles₁
      rw [runNamespaces_cons_of_ok g _ hbuild, settle_cons_of_ok g hbuild,
        FileTree.run_bind_of_run hwrite]
      refine ⟨t', hrun, hgrow₁.trans hgrow, List.forall_mem_cons.mpr ⟨fun o' ho => ?_, htexts⟩⟩
      rw [hbuild] at ho
      cases ho
      -- What follows the text are the additions of later names that lead to the same file.
      obtain ⟨added, hadded⟩ := hgrow _ _ htext
      exact ⟨bytes, added, hadded⟩

variable {c : Catalog}

theorem exists_run_of_prepare {t₁ : FileTree}
    (h : (d.prepare c.names : StateM FileTree (Except FileFault Unit)).run t = (.ok (), t₁)) :
    ∃ t', (g.run d.writer c : StateM FileTree (Except Error Report)).run t =
        (.ok (g.settle (fun _ => none) (start c) c.namespaces), t') ∧
      ∀ field ∈ c.namespaces, ∀ o, g.build field.1 field.2 = .ok o →
        d.Holds t' field.1 o.text := by
  obtain ⟨t₀, -, hstart⟩ := StubDirectory.prepare_eq_ok d h
  obtain ⟨-, hheaders⟩ := StubDirectory.fileAt_of_startFiles hstart
  obtain ⟨t', hrun, -, htexts⟩ := g.exists_run_runNamespaces (start c)
    fun name hname => ⟨_, hheaders name hname⟩
  refine ⟨t', run_of_runNamespaces h hrun, fun field hfield o hbuild => ?_⟩
  obtain ⟨before, after, hfile⟩ := htexts field hfield o hbuild
  exact ⟨before, after, hfile.read⟩

theorem written_run_memory (c : Catalog) :
    ((g.run Memory.writer c).run {}).1 = .ok (g.settle (fun _ => none) (start c) c.namespaces) ∧
      ((g.run Memory.writer c).run {}).2.written =
        c.namespaces.filterMap fun field => (g.attempt? (fun _ => none) field).bind Call.stored? := by
  obtain ⟨hrun, htrace⟩ := g.run_of_prepare_ok Memory.writer rfl
    (g.refusedBy_trace_refusingWriter none (fun _ => none) c {})
  refine ⟨hrun, ?_⟩
  rw [g.recorded_run Memory.records_writer c {}, List.map_id, htrace,
    List.filterMap_cons_none rfl, List.filterMap_filterMap]
  rfl

/-- Memory refuses nothing and keeps the text of every namespace that is an object. -/
theorem run_memory (hc : c.names.Nodup) :
    ((g.run Memory.writer c).run {}).1 = .ok (g.settle (fun _ => none) (start c) c.namespaces) ∧
      ∀ field ∈ c.namespaces, ∀ o, g.build field.1 field.2 = .ok o →
        ((g.run Memory.writer c).run {}).2.Holds field.1 o.text := by
  obtain ⟨hrun, hwritten⟩ := g.written_run_memory c
  have hkeys : (Fields.keys ((g.run Memory.writer c).run {}).2.written).Nodup := by
    rw [hwritten]
    refine hc.sublist (sublist_map_filterMap (fun field stored h => ?_) c.namespaces)
    unfold attempt? at h
    split at h
    · cases h
      rfl
    · cases h
  refine ⟨hrun, fun field hfield o hbuild => ?_⟩
  rw [Memory.Holds, Memory.get?, Fields.get?_eq_some_iff hkeys, hwritten]
  refine List.mem_filterMap.mpr ⟨field, hfield, ?_⟩
  simp [attempt?, hbuild, answerOf, Call.stored?]

end Generator

end NativeStubs
