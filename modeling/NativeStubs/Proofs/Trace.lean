import Mathlib.Algebra.GroupWithZero.Nat
import Mathlib.Data.List.Nodup
import NativeStubs.Catalog
import NativeStubs.Memory
import NativeStubs.Proofs.Namespace

/-! # The calls of a run

A run prepares its writer with the names of all namespaces and then writes every namespace that is
an object once, in catalog order, with the same text whatever the answers are. Each namespace ends
up in exactly one of the two lists of the report.
-/

namespace NativeStubs

open Json

/-- Elements that are found for a row of keys, at most one for each, keep the order of their keys. -/
theorem sublist_map_filterMap {α β γ : Type} {f : α → Option β} {key : α → γ} {keyOf : β → γ}
    (h : ∀ a b, f a = some b → keyOf b = key a) (l : List α) :
    ((l.filterMap f).map keyOf).Sublist (l.map key) := by
  induction l with
  | nil => exact List.Sublist.slnil
  | cons a l ih =>
    cases ha : f a with
    | none =>
      rw [List.filterMap_cons_none ha]
      exact ih.cons _
    | some b =>
      rw [List.filterMap_cons_some ha, List.map_cons, List.map_cons, h a b ha]
      exact ih.cons_cons _

/-- A call of a writer with its answer. -/
inductive Call
  | prepare (names : List String) (answer : Except Error Unit)
  | write (name text : String) (answer : Except Error Unit)

/-- A writer that also keeps a log of its calls. -/
def Writer.logged {m : Type → Type} [Monad m] (w : Writer m) : Writer (StateT (List Call) m) where
  prepare names := do
    let answer ← w.prepare names
    modify (· ++ [.prepare names answer])
    pure answer
  write name text := do
    let answer ← w.write name text
    modify (· ++ [.write name text answer])
    pure answer

namespace Writer

variable {m : Type → Type} [Monad m] [LawfulMonad m] (w : Writer m) (calls : List Call)

@[simp] theorem run_logged_prepare (names : List String) :
    (w.logged.prepare names).run calls =
      (fun answer => (answer, calls ++ [.prepare names answer])) <$> w.prepare names := by
  simp [logged]

@[simp] theorem run_logged_write (name text : String) :
    (w.logged.write name text).run calls =
      (fun answer => (answer, calls ++ [.write name text answer])) <$> w.write name text := by
  simp [logged]

end Writer

def answerOf : Option Error → Except Error Unit
  | none => .ok ()
  | some error => .error error

/-- The writes that fail are those of the namespaces that `refuse` gives an error for. -/
def RefusedBy (refuse : String → Option Error) (calls : List Call) : Prop :=
  ∀ name text answer, .write name text answer ∈ calls → answer = answerOf (refuse name)

/-- The namespaces that are objects, with their records. -/
def Catalog.objects (c : Catalog) : Fields (Fields Value) :=
  c.namespaces.filterMap fun (name, v) => v.fields?.map (name, ·)

namespace Generator

section Monad

variable {m : Type → Type} [Monad m] [LawfulMonad m] (g : Generator) (w : Writer m)
  {r : Report} {name : String} {v : Value} {rest : Fields Value}

theorem runNamespaces_cons_of_error {error : Error} (h : g.build name v = .error error) :
    g.runNamespaces w r ((name, v) :: rest) =
      g.runNamespaces w (r.addFailure name error) rest := by
  simp [runNamespaces, runNamespace, h]

theorem runNamespaces_cons_of_ok {o : NamespaceOutput} (h : g.build name v = .ok o) :
    g.runNamespaces w r ((name, v) :: rest) =
      w.write name o.text >>= fun answer =>
        g.runNamespaces w ((r.addSkipped o).addWritten name o answer) rest := by
  simp [runNamespaces, runNamespace, h]

theorem runNamespaces_logged (r : Report) (fields : Fields Value) (calls : List Call) :
    Prod.fst <$> (g.runNamespaces w.logged r fields).run calls = g.runNamespaces w r fields := by
  induction fields generalizing r calls with
  | nil => simp [runNamespaces]
  | cons field rest ih =>
    obtain ⟨name, v⟩ := field
    cases h : g.build name v with
    | error error =>
      rw [runNamespaces_cons_of_error _ _ h, runNamespaces_cons_of_error _ _ h, ih]
    | ok o =>
      rw [runNamespaces_cons_of_ok _ _ h, runNamespaces_cons_of_ok _ _ h]
      simp [StateT.run_bind, ih]

/-- The log does not show in the result. -/
theorem run_logged (c : Catalog) (calls : List Call) :
    Prod.fst <$> (g.run w.logged c).run calls = g.run w c := by
  simp only [run, StateT.run_bind, Writer.run_logged_prepare, map_bind, bind_map_left]
  congr 1
  funext answer
  cases answer with
  | error error => simp
  | ok _ =>
    rw [← runNamespaces_logged g w _ c.namespaces (calls ++ [.prepare c.names (.ok ())])]
    simp
end Monad

section Refusals

variable {σ : Type} (g : Generator) (refuse : String → Option Error) (r : Report)

/-- The number of declarations that is noted of a namespace, if it is written. -/
def written? (field : String × Value) : Option (String × Nat) :=
  match g.build field.1 field.2, refuse field.1 with
  | .ok o, none => some (field.1, o.declarations.length)
  | _, _ => none

def failure? (field : String × Value) : Option (String × Error) :=
  match g.build field.1 field.2, refuse field.1 with
  | .error error, _ => some (field.1, error)
  | .ok _, some source => some (field.1, .namespaceWrite field.1 source)
  | .ok _, none => none

def skippedIn (field : String × Value) : List Skipped :=
  match g.build field.1 field.2 with
  | .ok o => o.skipped
  | .error _ => []

def attempt? (field : String × Value) : Option Call :=
  match g.build field.1 field.2 with
  | .ok o => some (.write field.1 o.text (answerOf (refuse field.1)))
  | .error _ => none

/-- A report with some namespaces added. -/
def settle (fields : Fields Value) : Report :=
  { r with
    generated := r.generated + ((fields.filterMap (g.written? refuse)).map Prod.snd).sum
    namespaces := r.namespaces ++ fields.filterMap (g.written? refuse)
    skipped := r.skipped ++ fields.flatMap g.skippedIn
    failed := r.failed ++ fields.filterMap (g.failure? refuse) }

@[simp] theorem settle_nil : g.settle refuse r [] = r := by simp [settle]

variable {refuse r} {name : String} {v : Value} {rest : Fields Value}

theorem settle_cons_of_error {error : Error} (h : g.build name v = .error error) :
    g.settle refuse r ((name, v) :: rest) = g.settle refuse (r.addFailure name error) rest := by
  simp [settle, written?, failure?, skippedIn, h, Report.addFailure]

theorem settle_cons_of_ok {o : NamespaceOutput} (h : g.build name v = .ok o) :
    g.settle refuse r ((name, v) :: rest) =
      g.settle refuse ((r.addSkipped o).addWritten name o (answerOf (refuse name))) rest := by
  cases hr : refuse name <;>
    simp [settle, written?, failure?, skippedIn, h, hr, answerOf, Report.addSkipped,
      Report.addWritten, Report.addFailure, Nat.add_assoc]

variable (w : Writer (StateM σ))

theorem runNamespaces_logged_cons {o : NamespaceOutput} (h : g.build name v = .ok o)
    (calls : List Call) (s : σ) :
    ((g.runNamespaces w.logged r ((name, v) :: rest)).run calls).run s =
      let (answer, s') := (w.write name o.text).run s
      ((g.runNamespaces w.logged ((r.addSkipped o).addWritten name o answer) rest).run
        (calls ++ [.write name o.text answer])).run s' := by
  rw [runNamespaces_cons_of_ok _ _ h]
  rfl

theorem prefix_runNamespaces (r : Report) (fields : Fields Value) (calls : List Call) (s : σ) :
    calls <+: (((g.runNamespaces w.logged r fields).run calls).run s).1.2 := by
  induction fields generalizing r calls s with
  | nil => exact List.prefix_rfl
  | cons field rest ih =>
    obtain ⟨name, v⟩ := field
    cases h : g.build name v with
    | error error =>
      rw [runNamespaces_cons_of_error _ _ h]
      exact ih _ _ _
    | ok o =>
      rw [runNamespaces_logged_cons _ _ h]
      exact (List.prefix_append _ _).trans (ih _ _ _)

theorem runNamespaces_eq_settle (fields : Fields Value) (calls : List Call) (s : σ)
    (h : RefusedBy refuse (((g.runNamespaces w.logged r fields).run calls).run s).1.2) :
    (((g.runNamespaces w.logged r fields).run calls).run s).1 =
      (g.settle refuse r fields, calls ++ fields.filterMap (g.attempt? refuse)) := by
  induction fields generalizing r calls s with
  | nil =>
    change (r, calls) = _
    simp
  | cons field rest ih =>
    obtain ⟨name, v⟩ := field
    cases hb : g.build name v with
    | error error =>
      rw [runNamespaces_cons_of_error _ _ hb] at h ⊢
      rw [ih _ _ h, settle_cons_of_error _ hb]
      simp [attempt?, hb]
    | ok o =>
      rw [runNamespaces_logged_cons _ _ hb] at h ⊢
      generalize (w.write name o.text).run s = written at h ⊢
      obtain ⟨answer, s'⟩ := written
      dsimp only at h ⊢
      -- The answer is in the log for good, so `refuse` knows it.
      have hp := g.prefix_runNamespaces w ((r.addSkipped o).addWritten name o answer) rest
        (calls ++ [.write name o.text answer]) s'
      obtain rfl : answer = answerOf (refuse name) :=
        h name o.text answer (hp.subset (List.mem_append_right _ List.mem_cons_self))
      rw [settle_cons_of_ok _ hb]
      refine (ih _ _ h).trans ?_
      simp [attempt?, hb]

/-- The calls of a run with their answers. -/
def trace (w : Writer (StateM σ)) (c : Catalog) (s : σ) : List Call :=
  (((g.run w.logged c).run []).run s).1.2

def start (c : Catalog) : Report := { totalNatives := c.nativeCount }

theorem run_logged_state (c : Catalog) (s : σ) :
    (((g.run w.logged c).run []).run s).1 = (((g.run w c).run s).1, g.trace w c s) := by
  rw [← g.run_logged w c []]
  rfl

/-- Preparation is the first call, and its answer decides whether there are others. -/
theorem run_logged_eq (c : Catalog) (s : σ) :
    ((g.run w.logged c).run []).run s =
      ((match ((w.prepare c.names).run s).1 with
        | .error error => pure (.error error)
        | .ok () => .ok <$> g.runNamespaces w.logged (start c) c.namespaces :
        StateT (List Call) (StateM σ) (Except Error Report)).run
          [.prepare c.names ((w.prepare c.names).run s).1]).run ((w.prepare c.names).run s).2 :=
  rfl

theorem run_of_prepare_error {c : Catalog} {s : σ} {error : Error}
    (h : ((w.prepare c.names).run s).1 = .error error) :
    ((g.run w c).run s).1 = .error error ∧ g.trace w c s = [.prepare c.names (.error error)] := by
  have hrun := g.run_logged_state w c s
  rw [run_logged_eq, h] at hrun
  obtain ⟨hresult, htrace⟩ := Prod.mk.inj hrun
  exact ⟨hresult.symm, htrace.symm⟩

theorem run_of_prepare_ok {c : Catalog} {s : σ} (h : ((w.prepare c.names).run s).1 = .ok ())
    (hr : RefusedBy refuse (g.trace w c s)) :
    ((g.run w c).run s).1 = .ok (g.settle refuse (start c) c.namespaces) ∧
      g.trace w c s =
        .prepare c.names (.ok ()) :: c.namespaces.filterMap (g.attempt? refuse) := by
  have hrun := g.run_logged_state w c s
  rw [run_logged_eq, h] at hrun
  obtain ⟨hresult, htrace⟩ := Prod.mk.inj hrun
  rw [← htrace] at hr
  have hsettle := g.runNamespaces_eq_settle w c.namespaces _ _ hr
  obtain ⟨hreport, hcalls⟩ := Prod.mk.inj hsettle
  exact ⟨hresult.symm.trans (congrArg Except.ok hreport), htrace.symm.trans hcalls⟩

theorem refusedBy_runNamespaces
    (hw : ∀ name text s, ((w.write name text).run s).1 = answerOf (refuse name))
    (r : Report) (fields : Fields Value) {calls : List Call} (s : σ)
    (hc : RefusedBy refuse calls) :
    RefusedBy refuse (((g.runNamespaces w.logged r fields).run calls).run s).1.2 := by
  induction fields generalizing r calls s with
  | nil => exact hc
  | cons field rest ih =>
    obtain ⟨name, v⟩ := field
    cases hb : g.build name v with
    | error error =>
      rw [runNamespaces_cons_of_error _ _ hb]
      exact ih _ _ hc
    | ok o =>
      rw [runNamespaces_logged_cons _ _ hb]
      refine ih _ _ ?_
      intro name' text answer hmem
      rcases List.mem_append.mp hmem with hmem | hmem
      · exact hc name' text answer hmem
      · cases List.mem_singleton.mp hmem
        exact hw name o.text s

theorem refusedBy_prepare (names : List String) (answer : Except Error Unit) :
    RefusedBy refuse [.prepare names answer] := by
  intro name text answer hmem
  cases List.mem_singleton.mp hmem

/-- Every choice of refusals is that of some run: a writer whose answers depend on the names alone
refuses what it is meant to refuse. -/
theorem refusedBy_trace
    (hw : ∀ name text s, ((w.write name text).run s).1 = answerOf (refuse name))
    (c : Catalog) (s : σ) : RefusedBy refuse (g.trace w c s) := by
  unfold trace
  rw [run_logged_eq]
  cases h : ((w.prepare c.names).run s).1 with
  | error error => exact refusedBy_prepare _ _
  | ok _ => exact g.refusedBy_runNamespaces w hw _ _ _ (refusedBy_prepare _ _)

theorem refusedBy_trace_refusingWriter (refusal : Option Error)
    (refuse : String → Option Error) (c : Catalog) (memory : Memory) :
    RefusedBy refuse (g.trace (Memory.refusingWriter refusal refuse) c memory) := by
  refine g.refusedBy_trace _ (fun name text s => ?_) c memory
  cases h : refuse name <;> simp only [Memory.refusingWriter, h] <;> rfl

theorem exists_answerOf : (answer : Except Error Unit) → ∃ error?, answer = answerOf error?
  | .ok _ => ⟨none, rfl⟩
  | .error error => ⟨some error, rfl⟩

theorem exists_refusedBy_runNamespaces (refuse : String → Option Error) (r : Report)
    (fields : Fields Value) {calls : List Call} (s : σ) (hn : fields.keys.Nodup)
    (hc : RefusedBy refuse calls)
    (hnew : ∀ name text answer, .write name text answer ∈ calls → name ∉ fields.keys) :
    ∃ refuse', RefusedBy refuse' (((g.runNamespaces w.logged r fields).run calls).run s).1.2 := by
  induction fields generalizing r calls s refuse with
  | nil => exact ⟨refuse, hc⟩
  | cons field rest ih =>
    obtain ⟨name, v⟩ := field
    obtain ⟨hname, hrest⟩ := List.nodup_cons.mp hn
    cases hb : g.build name v with
    | error error =>
      rw [runNamespaces_cons_of_error _ _ hb]
      refine ih _ _ _ hrest hc fun name' text answer hmem hkey => ?_
      exact hnew name' text answer hmem (List.mem_cons_of_mem _ hkey)
    | ok o =>
      rw [runNamespaces_logged_cons _ _ hb]
      obtain ⟨error?, herror⟩ := exists_answerOf ((w.write name o.text).run s).1
      -- No call so far is about this namespace, so its answer can be added to the refusals.
      refine ih (Function.update refuse name error?) _ _ hrest ?_ ?_
      · intro name' text answer hmem
        rcases List.mem_append.mp hmem with hold | hlast
        · have hne : name' ≠ name := by
            rintro rfl
            exact hnew name' text answer hold List.mem_cons_self
          rw [Function.update_of_ne hne]
          exact hc name' text answer hold
        · cases List.mem_singleton.mp hlast
          rw [Function.update_self]
          exact herror
      · intro name' text answer hmem hkey
        rcases List.mem_append.mp hmem with hold | hlast
        · exact hnew name' text answer hold (List.mem_cons_of_mem _ hkey)
        · cases List.mem_singleton.mp hlast
          exact hname hkey

/-- Where names are distinct, every run has its refusals, even if the answers of the writer depend
on more than the names. -/
theorem exists_refusedBy_trace {c : Catalog} (hc : c.names.Nodup) (s : σ) :
    ∃ refuse, RefusedBy refuse (g.trace w c s) := by
  unfold trace
  rw [run_logged_eq]
  cases h : ((w.prepare c.names).run s).1 with
  | error error => exact ⟨fun _ => none, refusedBy_prepare _ _⟩
  | ok _ =>
    refine g.exists_refusedBy_runNamespaces w (fun _ => none) _ _ _ hc (refusedBy_prepare _ _) ?_
    intro name text answer hmem
    cases List.mem_singleton.mp hmem

end Refusals

section Objects

variable (g : Generator) (refuse : String → Option Error)

def outputs (c : Catalog) : List NamespaceOutput :=
  c.objects.map fun (name, records) => g.output name records

theorem filterMap_attempt? (c : Catalog) :
    c.namespaces.filterMap (g.attempt? refuse) =
      (g.outputs c).map fun o =>
        .write o.namespaceName o.text (answerOf (refuse o.namespaceName)) := by
  rw [outputs, Catalog.objects, List.map_filterMap, List.map_filterMap]
  refine List.filterMap_congr fun field _ => ?_
  cases h : field.2.fields? <;> simp [attempt?, build_eq, h, output]

theorem flatMap_skippedIn (c : Catalog) :
    c.namespaces.flatMap g.skippedIn = (g.outputs c).flatMap (·.skipped) := by
  rw [outputs, Catalog.objects]
  induction c.namespaces with
  | nil => rfl
  | cons field rest ih =>
    cases h : field.2.fields? <;> simp [skippedIn, build_eq, h, ih]

theorem forall₂_outputs (c : Catalog) :
    List.Forall₂ (fun (object : String × Fields Value) o =>
      g.build object.1 (.object object.2) = .ok o ∧ o.namespaceName = object.1)
      c.objects (g.outputs c) := by
  rw [outputs, List.forall₂_map_right_iff, List.forall₂_same]
  exact fun object _ => ⟨g.build_object object.1 object.2, rfl⟩

theorem failure?_eq_some_iff {field : String × Value} {name : String} {error : Error} :
    g.failure? refuse field = some (name, error) ↔ field.1 = name ∧
      (field.2.fields? = none ∧ error = .malformedCatalog (.namespaceNotObject name) ∨
        field.2.fields?.isSome ∧
          ∃ source, refuse name = some source ∧ error = .namespaceWrite name source) := by
  obtain ⟨name', v⟩ := field
  cases hv : v.fields? <;> cases hr : refuse name' <;>
    simp only [failure?, build_eq, hv, hr] <;> grind

theorem written?_or_failure? (field : String × Value) :
    (∃ count, g.written? refuse field = some (field.1, count)) ∧ g.failure? refuse field = none ∨
      g.written? refuse field = none ∧
        ∃ error, g.failure? refuse field = some (field.1, error) := by
  cases hb : g.build field.1 field.2 <;> cases hr : refuse field.1 <;>
    simp [written?, failure?, hb, hr]

theorem sublist_written? (fields : Fields Value) :
    ((fields.filterMap (g.written? refuse)).map Prod.fst).Sublist fields.keys := by
  refine sublist_map_filterMap (fun field count h => ?_) fields
  unfold written? at h
  split at h
  · cases h
    rfl
  · cases h

theorem sublist_failure? (fields : Fields Value) :
    ((fields.filterMap (g.failure? refuse)).map Prod.fst).Sublist fields.keys :=
  sublist_map_filterMap
    (fun _ _ h => ((g.failure?_eq_some_iff refuse).mp h).1.symm) fields

theorem perm_written?_failure? (fields : Fields Value) :
    ((fields.filterMap (g.written? refuse)).map Prod.fst ++
      (fields.filterMap (g.failure? refuse)).map Prod.fst).Perm fields.keys := by
  induction fields with
  | nil => exact List.Perm.refl _
  | cons field rest ih =>
    rcases g.written?_or_failure? refuse field with ⟨⟨count, hw⟩, hf⟩ | ⟨hw, error, hf⟩
    · rw [List.filterMap_cons_some hw, List.filterMap_cons_none hf]
      exact ih.cons field.1
    · rw [List.filterMap_cons_none hw, List.filterMap_cons_some hf]
      exact List.perm_middle.trans (ih.cons field.1)

/-- The writer is prepared once, before all else, and then handed every namespace that is an
object once, in catalog order, with a text that does not depend on the answers. What is skipped
does not depend on them either. Each name has one answer. Of the names, which come in catalog order
in both lists of the report, exactly those fail that are malformed or refused. -/
theorem run_isolates_failures (c : Catalog) (hc : c.names.Nodup) :
    ∃ outputs : List NamespaceOutput,
      List.Forall₂ (fun (object : String × Fields Value) o =>
        g.build object.1 (.object object.2) = .ok o ∧ o.namespaceName = object.1)
        c.objects outputs ∧
      ∀ {σ : Type} (w : Writer (StateM σ)) (s : σ),
        (∀ error, ((w.prepare c.names).run s).1 = .error error →
          ((g.run w c).run s).1 = .error error ∧
            g.trace w c s = [.prepare c.names (.error error)]) ∧
        (∃ refuse, RefusedBy refuse (g.trace w c s)) ∧
        ∀ refuse, RefusedBy refuse (g.trace w c s) → ((w.prepare c.names).run s).1 = .ok () →
          ∃ report, ((g.run w c).run s).1 = .ok report ∧
            g.trace w c s = .prepare c.names (.ok ()) :: outputs.map (fun o =>
              .write o.namespaceName o.text (answerOf (refuse o.namespaceName))) ∧
            report.skipped = outputs.flatMap (·.skipped) ∧
            (report.namespaces.map Prod.fst).Sublist c.names ∧
            (report.failed.map Prod.fst).Sublist c.names ∧
            (report.namespaces.map Prod.fst ++ report.failed.map Prod.fst).Perm c.names ∧
            ∀ name v, (name, v) ∈ c.namespaces → ∀ error, (name, error) ∈ report.failed ↔
              (v.fields? = none ∧ error = .malformedCatalog (.namespaceNotObject name)) ∨
              (v.fields?.isSome ∧
                ∃ source, refuse name = some source ∧ error = .namespaceWrite name source) := by
  refine ⟨g.outputs c, g.forall₂_outputs c, fun w s =>
    ⟨fun error herror => g.run_of_prepare_error w herror, g.exists_refusedBy_trace w hc s,
      fun refuse hr hp => ?_⟩⟩
  obtain ⟨hrun, htrace⟩ := g.run_of_prepare_ok w hp hr
  rw [filterMap_attempt?] at htrace
  refine ⟨_, hrun, htrace, g.flatMap_skippedIn c, g.sublist_written? refuse _,
    g.sublist_failure? refuse _, g.perm_written?_failure? refuse _, ?_⟩
  intro name v hv error
  change (name, error) ∈ [] ++ c.namespaces.filterMap (g.failure? refuse) ↔ _
  rw [List.nil_append, List.mem_filterMap]
  constructor
  · rintro ⟨field, hfield, hf⟩
    obtain ⟨hname, h⟩ := (g.failure?_eq_some_iff refuse).mp hf
    -- Names are distinct, so the failure is that of the namespace asked about.
    obtain rfl : field = (name, v) := List.inj_on_of_nodup_map hc hfield hv hname
    exact h
  · intro h
    exact ⟨(name, v), hv, (g.failure?_eq_some_iff refuse).mpr ⟨rfl, h⟩⟩

end Objects

/-- A catalog with a namespace that is malformed between two that are not. -/
def mixedCatalog : Catalog :=
  ⟨[("PED", .object [
      ("0x1", .object [("name", .string "GET_PED"), ("params", .array [])]),
      ("0x2", .object [("name", .string "CLEAR")]),
      ("0x3", .object [("name", .string "get_ped"), ("params", .array [])])]),
    ("BAD", .null),
    ("CAM", .object [("0x4", .object [("params", .array [])])])]⟩

def refuseCam (name : String) : Option Error := if name = "CAM" then some (.io .notFound) else none

theorem run_isolates_failures_mixed :
    mixedCatalog.names.Nodup ∧ ∃ report,
      (((Config.generator {}).run (Memory.refusingWriter none refuseCam) mixedCatalog).run {}).1 =
        .ok report ∧
      ("CAM", .namespaceWrite "CAM" (.io .notFound)) ∈ report.failed ∧
      ("BAD", .malformedCatalog (.namespaceNotObject "BAD")) ∈ report.failed ∧
      ∀ error, ("PED", error) ∉ report.failed := by
  have hc : mixedCatalog.names.Nodup := by decide
  obtain ⟨outputs, -, hrun⟩ := (Config.generator {}).run_isolates_failures mixedCatalog hc
  obtain ⟨report, hreport, -, -, -, -, -, hfailed⟩ :=
    (hrun (Memory.refusingWriter none refuseCam) {}).2.2 refuseCam
      (refusedBy_trace_refusingWriter _ none refuseCam mixedCatalog {}) rfl
  have hped := hfailed "PED" _ (.head _)
  have hbad := hfailed "BAD" _ (.tail _ (.head _))
  have hcam := hfailed "CAM" _ (.tail _ (.tail _ (.head _)))
  refine ⟨hc, report, hreport, (hcam _).mpr ?_, (hbad _).mpr ?_, fun error h => ?_⟩
  · exact Or.inr ⟨rfl, _, rfl, rfl⟩
  · exact Or.inl ⟨rfl, rfl⟩
  · simpa [Value.fields?, refuseCam] using (hped error).mp h

end Generator

end NativeStubs
