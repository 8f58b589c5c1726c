import NativeStubs.Proofs.Journal
import NativeStubs.Proofs.Trace

/-! # What writers keep

A memory keeps the texts that its writer takes, and a journal keeps those that are added to the
files of a stub directory. Both can be read off the calls of a run: they are the texts of the calls
that succeed, in order.
-/

namespace NativeStubs

open Json

variable {σ α : Type}

/-- The name and the text of a call that hands one over, if it succeeds. -/
def Call.stored? : Call → Option (String × String)
  | .write name text (.ok _) => some (name, text)
  | .write _ _ (.error _) | .prepare _ _ => none

/-- A writer whose state records every text that it takes, at the end of what it has recorded. -/
structure Writer.Records (w : Writer (StateM σ)) (recorded : σ → List α)
    (entry : String × String → α) : Prop where
  prepare : ∀ names s, recorded ((w.prepare names).run s).2 = recorded s
  write : ∀ name text s, recorded ((w.write name text).run s).2 =
    recorded s ++ ((Call.write name text ((w.write name text).run s).1).stored?.map entry).toList

namespace Generator

variable (g : Generator) {w : Writer (StateM σ)} {recorded : σ → List α}
  {entry : String × String → α}

theorem records_runNamespaces (h : w.Records recorded entry) (r : Report) (fields : Fields Value)
    {calls : List Call} {s : σ} {before : List α}
    (hs : recorded s = before ++ (calls.filterMap Call.stored?).map entry) :
    recorded (((g.runNamespaces w.logged r fields).run calls).run s).2 =
      before ++ ((((g.runNamespaces w.logged r fields).run calls).run s).1.2.filterMap
        Call.stored?).map entry := by
  induction fields generalizing r calls s with
  | nil => exact hs
  | cons field rest ih =>
    obtain ⟨name, v⟩ := field
    cases hbuild : g.build name v with
    | error error =>
      rw [runNamespaces_cons_of_error _ _ hbuild]
      exact ih _ hs
    | ok o =>
      rw [runNamespaces_logged_cons _ _ hbuild]
      have hwritten := h.write name o.text s
      generalize (w.write name o.text).run s = written at hwritten ⊢
      obtain ⟨answer, s'⟩ := written
      refine ih _ ?_
      rw [hwritten, hs, List.filterMap_append, List.map_append, List.append_assoc]
      cases answer <;> rfl

theorem run_logged_snd (w : Writer (StateM σ)) (c : Catalog) (s : σ) :
    (((g.run w.logged c).run []).run s).2 = ((g.run w c).run s).2 := by
  rw [← g.run_logged w c []]
  rfl

/-- What a run makes its writer record are the texts of the calls that succeed. -/
theorem recorded_run (h : w.Records recorded entry) (c : Catalog) (s : σ) :
    recorded ((g.run w c).run s).2 =
      recorded s ++ ((g.trace w c s).filterMap Call.stored?).map entry := by
  rw [← run_logged_snd, trace, run_logged_eq]
  have hprepared : recorded ((w.prepare c.names).run s).2 = recorded s ++
      ([Call.prepare c.names ((w.prepare c.names).run s).1].filterMap Call.stored?).map entry := by
    rw [h.prepare]
    simp [Call.stored?]
  cases hanswer : ((w.prepare c.names).run s).1 with
  | error error =>
    rw [hanswer] at hprepared
    exact hprepared
  | ok _ =>
    rw [hanswer] at hprepared
    exact g.records_runNamespaces h _ c.namespaces hprepared

end Generator

namespace Memory

theorem records_writer : writer.Records Memory.written id where
  prepare _ _ := rfl
  write _ _ _ := rfl

end Memory

namespace StubDirectory

variable (d : StubDirectory)

/-- The paths and the bytes of all that was added to files. -/
def appended (j : Journal) : List (String × ByteArray) := j.edits.filterMap Edit.appended?

/-- The file of a namespace with the bytes of a text. -/
def fileBytes (stored : String × String) : String × ByteArray :=
  (d.filePath stored.1, stored.2.toUTF8)

theorem allowsPrepare_appended (names : List String) :
    Journal.AllowsPrepare (fun j j' => appended j' = appended j) d names where
  refl _ := rfl
  trans h h' := h'.trans h
  directory _ _ _ _ _ := rfl
  start _ _ _ _ _ _ _ := by simp [appended, Journal.record, Edit.appended?]

theorem records_writer : (d.writer : Writer (StateM Journal)).Records appended d.fileBytes where
  prepare names j := (Journal.follows_writer_prepare (d.allowsPrepare_appended names)).related j
  write name text j := by
    have hrun : (d.writer.write name text : StateM Journal (Except Error Unit)).run j =
      (((Journal.change .append (d.filePath name) text.toUTF8).run j).1.mapError Error.io,
        ((Journal.change .append (d.filePath name) text.toUTF8).run j).2) := rfl
    rw [hrun]
    cases hopen : j.tree.openFile (d.filePath name) with
    | error fault =>
      rw [Journal.run_change_of_error hopen]
      simp [Except.mapError, Call.stored?]
    | ok opened =>
      obtain ⟨place, old⟩ := opened
      rw [Journal.run_change_of_ok hopen]
      simp [Except.mapError, Call.stored?, appended, Journal.record, Edit.appended?, fileBytes]

end StubDirectory

end NativeStubs
