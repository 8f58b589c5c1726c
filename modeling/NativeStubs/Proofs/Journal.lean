import NativeStubs.Proofs.Directories
import NativeStubs.Proofs.StubDirectory
import NativeStubs.Run

/-! # Journals of file changes

A journal is a file tree that notes every file that is written or added to, with the place that its
path led to at that time. Noting changes nothing: a run over a journal gives the same answer and
leaves the same tree as the run over the tree alone.
-/

namespace NativeStubs

inductive EditKind
  | write
  | append
  deriving DecidableEq

/-- The bytes of a file after an edit. -/
def EditKind.result (old : Option ByteArray) (bytes : ByteArray) : EditKind → ByteArray
  | write => bytes
  | append => old.getD .empty ++ bytes

/-- A change of one file: the path that was given, the place that it led to, and the new bytes. -/
structure Edit where
  kind : EditKind
  path : String
  place : Place
  bytes : ByteArray

/-- The path and the bytes of what was added to a file. -/
def Edit.appended? (edit : Edit) : Option (String × ByteArray) :=
  match edit.kind with
  | .write => none
  | .append => some (edit.path, edit.bytes)

/-- A file tree with the edits that were made so far. -/
structure Journal where
  tree : FileTree
  edits : List Edit := []

namespace Journal

variable {α β : Type}

/-- Does something to the tree that changes no file. -/
def onTree (x : StateM FileTree α) : StateM Journal α := fun j =>
  match x.run j.tree with
  | (a, tree) => (a, { j with tree })

/-- The journal after an edit of a file that held some bytes, or was not there. -/
def record (j : Journal) (edit : Edit) (old : Option ByteArray) : Journal where
  tree := j.tree.set edit.place (.file (edit.kind.result old edit.bytes))
  edits := j.edits ++ [edit]

/-- Changes a file and makes a note of it. -/
def change (kind : EditKind) (path : String) (bytes : ByteArray) :
    StateM Journal (Except FileFault Unit) := fun j =>
  match j.tree.openFile path with
  | .error fault => (.error fault, j)
  | .ok (place, old) => (.ok (), j.record ⟨kind, path, place, bytes⟩ old)

instance : FileSystem (StateM Journal) where
  kind path := onTree (FileSystem.kind path)
  makeDirectory path := onTree (FileSystem.makeDirectory path)
  read path := onTree (FileSystem.read path)
  write := change .write
  append := change .append

/-- A program over journals does what another one does over trees, and takes every journal to one
that it is related to. -/
structure Follows (R : Journal → Journal → Prop) (x : StateM Journal α) (y : StateM FileTree α) :
    Prop where
  answer : ∀ j, (x.run j).1 = (y.run j.tree).1
  tree : ∀ j, (x.run j).2.tree = (y.run j.tree).2
  related : ∀ j, R j (x.run j).2

/-- What holds between the journals before and after a row of steps if it does for each step. -/
structure Chains (R : Journal → Journal → Prop) : Prop where
  refl : ∀ j, R j j
  trans : ∀ {j j' j''}, R j j' → R j' j'' → R j j''

namespace Follows

variable {R : Journal → Journal → Prop} {x : StateM Journal α} {y : StateM FileTree α}

theorem run_eq (h : Follows R x y) (j : Journal) :
    y.run j.tree = ((x.run j).1, (x.run j).2.tree) :=
  Prod.ext (h.answer j).symm (h.tree j).symm

theorem pure (hR : Chains R) (a : α) : Follows R (pure a) (pure a) where
  answer _ := rfl
  tree _ := rfl
  related := hR.refl

theorem bind (hR : Chains R) {f : α → StateM Journal β} {g : α → StateM FileTree β}
    (h : Follows R x y) (hf : ∀ a, Follows R (f a) (g a)) : Follows R (x >>= f) (y >>= g) := by
  have hx (j : Journal) : (x >>= f).run j = (f (x.run j).1).run (x.run j).2 := rfl
  have hy (j : Journal) : (y >>= g).run j.tree = (g (x.run j).1).run (x.run j).2.tree := by
    rw [h.answer, h.tree]
    rfl
  constructor
  · intro j
    rw [hx, hy, (hf _).answer]
  · intro j
    rw [hx, hy, (hf _).tree]
  · intro j
    rw [hx]
    exact hR.trans (h.related j) ((hf _).related _)

theorem map (h : Follows R x y) (f : α → β) : Follows R (f <$> x) (f <$> y) where
  answer j := congrArg f (h.answer j)
  tree j := h.tree j
  related j := h.related j

end Follows

section Programs

variable {R : Journal → Journal → Prop} {paths : List String} {path : String}

theorem follows_onTree {x : StateM FileTree α} (h : ∀ j, R j { j with tree := (x.run j.tree).2 }) :
    Follows R (onTree x) x where
  answer _ := rfl
  tree _ := rfl
  related := h

theorem follows_kind (hR : Chains R) (path : String) :
    Follows R (FileSystem.kind path) (FileSystem.kind path) :=
  follows_onTree hR.refl

theorem follows_ifDirectory (hR : Chains R) (path : String) (a b : α) :
    Follows R (do if ← FileSystem.isDirectory path then pure a else pure b)
      (do if ← FileSystem.isDirectory path then pure a else pure b) := by
  refine .bind hR (.bind hR (follows_kind hR path) fun found => ?_) fun found => ?_
  · cases found <;> exact .pure hR _
  · cases found <;> exact .pure hR _

/-- Making the directory at a path, if that can be done, keeps to a relation. -/
def AllowsDirectory (R : Journal → Journal → Prop) (path : String) : Prop :=
  ∀ j tree, j.tree.makeDirectory path = .ok tree → R j { j with tree }

theorem follows_makeDirectory (hR : Chains R) (h : AllowsDirectory R path) :
    Follows R (FileSystem.makeDirectory path) (FileSystem.makeDirectory path) := by
  refine follows_onTree fun j => ?_
  cases hmake : j.tree.makeDirectory path with
  | ok tree =>
    rw [FileTree.run_makeDirectory_of_ok hmake]
    exact h j tree hmake
  | error fault =>
    rw [FileTree.run_makeDirectory_of_error hmake]
    exact hR.refl j

theorem follows_makeAncestors (hR : Chains R) (h : ∀ path ∈ paths, AllowsDirectory R path) :
    Follows R (FileSystem.makeAncestors paths) (FileSystem.makeAncestors paths) := by
  induction paths with
  | nil => exact .pure hR _
  | cons path parents ih =>
    obtain ⟨hpath, hparents⟩ := List.forall_mem_cons.mp h
    have hmake := follows_makeDirectory hR hpath
    refine hmake.bind hR fun made => ?_
    cases made with
    | ok _ => exact .pure hR _
    | error fault =>
      cases fault with
      | notFound =>
        refine (ih hparents).bind hR fun above => ?_
        cases above with
        | error fault => exact .pure hR _
        | ok _ =>
          refine hmake.bind hR fun again => ?_
          cases again with
          | ok _ => exact .pure hR _
          | error fault => exact follows_ifDirectory hR path _ _
      | _ => exact follows_ifDirectory hR path _ _

/-- Changing the file at a path in some way, if it can be opened, keeps to a relation. -/
def AllowsEdit (R : Journal → Journal → Prop) (kind : EditKind) (path : String) : Prop :=
  ∀ j place old, j.tree.openFile path = .ok (place, old) → ∀ bytes,
    R j (j.record ⟨kind, path, place, bytes⟩ old)

theorem run_change_of_ok {j : Journal} {place : Place} {old : Option ByteArray}
    (h : j.tree.openFile path = .ok (place, old)) (kind : EditKind) (bytes : ByteArray) :
    (change kind path bytes).run j = (.ok (), j.record ⟨kind, path, place, bytes⟩ old) := by
  change change kind path bytes j = _
  rw [change, h]

theorem run_change_of_error {j : Journal} {fault : FileFault}
    (h : j.tree.openFile path = .error fault) (kind : EditKind) (bytes : ByteArray) :
    (change kind path bytes).run j = (.error fault, j) := by
  change change kind path bytes j = _
  rw [change, h]

theorem follows_change {kind : EditKind} (hR : Chains R) (h : AllowsEdit R kind path)
    (bytes : ByteArray) : Follows R (change kind path bytes)
      (FileTree.change fun t => (t.openFile path).map fun (place, old) =>
        t.set place (.file (kind.result old bytes))) := by
  have hstep (j : Journal) : R j ((change kind path bytes).run j).2 ∧
      (FileTree.change fun t => (t.openFile path).map fun (place, old) =>
        t.set place (.file (kind.result old bytes))).run j.tree =
          (((change kind path bytes).run j).1, ((change kind path bytes).run j).2.tree) := by
    cases hopen : j.tree.openFile path with
    | error fault =>
      rw [run_change_of_error hopen, FileTree.run_change_of_error (by rw [hopen]; rfl)]
      exact ⟨hR.refl j, rfl⟩
    | ok opened =>
      obtain ⟨place, old⟩ := opened
      rw [run_change_of_ok hopen, FileTree.run_change_of_ok (by rw [hopen]; rfl)]
      exact ⟨h j place old hopen bytes, rfl⟩
  constructor
  · intro j
    rw [(hstep j).2]
  · intro j
    rw [(hstep j).2]
  · exact fun j => (hstep j).1

theorem follows_writeText (hR : Chains R) (h : AllowsEdit R .write path) (text : String) :
    Follows R (FileSystem.writeText path text) (FileSystem.writeText path text) :=
  follows_change hR h text.toUTF8

theorem follows_appendText (hR : Chains R) (h : AllowsEdit R .append path) (text : String) :
    Follows R (FileSystem.appendText path text) (FileSystem.appendText path text) :=
  follows_change hR h text.toUTF8

end Programs

section Runs

variable {R : Journal → Journal → Prop} {d : StubDirectory} {names : List String}

/-- A relation that every step of preparing a stub directory keeps to. -/
structure AllowsPrepare (R : Journal → Journal → Prop) (d : StubDirectory) (names : List String) :
    Prop extends Chains R where
  directory : ∀ path ∈ Path.ancestors d.path, AllowsDirectory R path
  start : ∀ name ∈ names, AllowsEdit R .write (d.filePath name)

/-- A relation that every step of a run to a stub directory keeps to. -/
structure AllowsRun (R : Journal → Journal → Prop) (d : StubDirectory) (names : List String) :
    Prop extends AllowsPrepare R d names where
  append : ∀ name ∈ names, AllowsEdit R .append (d.filePath name)

theorem follows_startFile {path : String} (hR : Chains R) (h : AllowsEdit R .write path) :
    Follows R (StubDirectory.startFile path) (StubDirectory.startFile path) := by
  have hwrite := follows_writeText hR h StubDirectory.header
  refine (follows_kind hR path).bind hR fun found => ?_
  cases found with
  | ok _ => exact hwrite
  | error fault =>
    cases fault with
    | notFound => exact hwrite
    | _ => exact .pure hR _

theorem follows_startFiles (hR : Chains R)
    (h : ∀ name ∈ names, AllowsEdit R .write (d.filePath name)) :
    Follows R (d.startFiles names) (d.startFiles names) := by
  induction names with
  | nil => exact .pure hR _
  | cons name rest ih =>
    obtain ⟨hname, hrest⟩ := List.forall_mem_cons.mp h
    refine (follows_startFile hR hname).bind hR fun started => ?_
    cases started with
    | error fault => exact .pure hR _
    | ok _ => exact ih hrest

theorem follows_writer_prepare (h : AllowsPrepare R d names) :
    Follows R (d.writer.prepare names) (d.writer.prepare names) := by
  have hmake := follows_makeAncestors h.toChains h.directory
  refine (hmake.bind h.toChains fun made => ?_).map _
  cases made with
  | error fault => exact .pure h.toChains _
  | ok _ => exact follows_startFiles h.toChains h.start

theorem follows_writer_write {name : String} (hR : Chains R)
    (h : AllowsEdit R .append (d.filePath name)) (text : String) :
    Follows R (d.writer.write name text) (d.writer.write name text) :=
  (follows_appendText hR h text).map _

theorem follows_runNamespaces (hR : Chains R) (g : Generator) (r : Report)
    {fields : Fields Json.Value}
    (h : ∀ name ∈ fields.keys, AllowsEdit R .append (d.filePath name)) :
    Follows R (g.runNamespaces d.writer r fields) (g.runNamespaces d.writer r fields) := by
  induction fields generalizing r with
  | nil => exact .pure hR _
  | cons field rest ih =>
    obtain ⟨name, v⟩ := field
    obtain ⟨hname, hrest⟩ := List.forall_mem_cons.mp h
    refine .bind hR ?_ fun r => ih r hrest
    unfold Generator.runNamespace
    cases g.build name v with
    | error error => exact .pure hR _
    | ok o => exact (follows_writer_write hR hname o.text).bind hR fun answer => .pure hR _

/-- A run over a journal is the run over its tree, and keeps to what its steps keep to. -/
theorem follows_run (g : Generator) (c : Catalog) (h : AllowsRun R d c.names) :
    Follows R (g.run d.writer c) (g.run d.writer c) := by
  refine (follows_writer_prepare h.toAllowsPrepare).bind h.toChains fun prepared => ?_
  cases prepared with
  | error error => exact .pure h.toChains _
  | ok _ => exact (follows_runNamespaces h.toChains g _ h.append).map _

end Runs

end Journal

end NativeStubs
