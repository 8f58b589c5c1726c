import Mathlib.Data.List.Nodup
import Mathlib.Data.List.Perm.Basic
import NativeStubs.Proofs.Namespace

/-! # Records in another order

The declarations of a namespace depend on the order of its records only where records share an
identifier. As long as such records keep their order among themselves, the others may stand
anywhere: the text stays the same, and the same records are skipped.
-/

namespace NativeStubs

open Json

section Order

variable {α : Type} {l l' : List α} {x y : α}

/-- Of two elements of a list without repetition, one comes first. -/
theorem eq_of_pair_sublist (hn : l.Nodup) (h : [x, y].Sublist l) (h' : [y, x].Sublist l) :
    x = y := by
  induction l with
  | nil => cases h
  | cons z l ih =>
    obtain ⟨hz, hl⟩ := List.nodup_cons.mp hn
    rcases List.cons_sublist_cons'.mp h with hxy | ⟨rfl, -⟩ <;>
      rcases List.cons_sublist_cons'.mp h' with hyx | ⟨rfl, -⟩
    · exact ih hl hxy hyx
    · exact absurd (hxy.subset (List.mem_cons_of_mem x List.mem_cons_self)) hz
    · exact absurd (hyx.subset (List.mem_cons_of_mem y List.mem_cons_self)) hz
    · rfl

/-- A permutation that keeps the order of any two elements with a property keeps the list of the
elements with the property. -/
theorem filter_eq_of_perm (hp : l.Perm l') (hn : l.Nodup) (p : α → Bool)
    (h : l.Pairwise fun x y => p x → p y → [x, y].Sublist l') : l.filter p = l'.filter p := by
  have hn' : l'.Nodup := hp.nodup_iff.mp hn
  have hle : (l.filter p).Pairwise fun x y => [x, y].Sublist l' := List.pairwise_filter.mpr h
  have hle' : (l'.filter p).Pairwise fun x y => [x, y].Sublist l' :=
    List.pairwise_iff_forall_sublist.mpr fun hxy => hxy.trans List.filter_sublist
  exact (hp.filter p).eq_of_pairwise (fun x y _ _ => eq_of_pair_sublist hn') hle hle'

end Order

theorem Declarations.Increasing.nodup {ds : Declarations} (h : ds.Increasing) : ds.Nodup :=
  h.imp fun hlt he => absurd (congrArg Prod.fst he) hlt.ne

/-- Declarations in increasing order are known by what is declared. -/
theorem Declarations.Increasing.eq_of_mem_iff {ds ds' : Declarations} (h : ds.Increasing)
    (h' : ds'.Increasing) (hmem : ∀ d, d ∈ ds ↔ d ∈ ds') : ds = ds' := by
  have hp : ds.Perm ds' := (List.perm_ext_iff_of_nodup h.nodup h'.nodup).mpr hmem
  exact hp.eq_of_pairwise (fun d d' _ _ hlt hlt' => absurd hlt' hlt.not_gt) h h'

namespace Generator

variable (g : Generator) (name : String) {records records' : Fields Value}

/-- The records that are declared under an identifier. -/
def recordsOf (records : Fields Value) (identifier : String) : Fields Value :=
  records.filter fun field => g.identifierOf? name field = some identifier

/-- What is declared under an identifier is what the last of its records gives. -/
theorem lastDeclared_iff_getLast? (records : Fields Value) (identifier text : String) :
    g.LastDeclared name records identifier text ↔
      ∃ field ∈ (g.recordsOf name records identifier).getLast?,
        g.declare name field.1 field.2 = .ok (identifier, text) := by
  induction records using List.reverseRecOn with
  | nil => simp [LastDeclared, recordsOf]
  | append_singleton records field ih =>
    rw [lastDeclared_append_singleton, ih]
    by_cases h : g.identifierOf? name field = some identifier
    · simp [recordsOf, h]
    · have hne : g.declare name field.1 field.2 ≠ .ok (identifier, text) :=
        fun hd => h ((g.identifierOf?_eq_some_iff name).mpr ⟨text, hd⟩)
      simp [recordsOf, h, hne]

/-- Of any two records with one identifier, the one that comes first in the first object comes first
in the second one too. -/
def KeepsOrder (records records' : Fields Value) : Prop :=
  records.Pairwise fun field field' => ∀ identifier,
    g.identifierOf? name field = some identifier → g.identifierOf? name field' = some identifier →
      [field, field'].Sublist records'

theorem KeepsOrder.recordsOf_eq (ho : g.KeepsOrder name records records')
    (hp : records.Perm records') (hn : records.keys.Nodup) (identifier : String) :
    g.recordsOf name records identifier = g.recordsOf name records' identifier := by
  refine filter_eq_of_perm hp (List.Nodup.of_map _ hn) _ (ho.imp fun h hf hf' => ?_)
  exact h identifier (of_decide_eq_true hf) (of_decide_eq_true hf')

theorem declarations_eq_of_perm (ho : g.KeepsOrder name records records')
    (hp : records.Perm records') (hn : records.keys.Nodup) :
    g.declarations name records = g.declarations name records' := by
  refine (g.increasing_declarations name records).eq_of_mem_iff
    (g.increasing_declarations name records') fun ⟨identifier, text⟩ => ?_
  rw [mem_declarations, mem_declarations, lastDeclared_iff_getLast?, lastDeclared_iff_getLast?,
    ho.recordsOf_eq g name hp hn]

/-- A namespace whose records stand in another order has the same declarations and the same text,
if records with one identifier keep their order, and the same records are skipped. -/
theorem build_perm (ho : g.KeepsOrder name records records') (hp : records.Perm records')
    (hn : records.keys.Nodup) :
    ∃ o o', g.build name (.object records) = .ok o ∧ g.build name (.object records') = .ok o' ∧
      o.declarations = o'.declarations ∧ o.text = o'.text ∧ o.skipped.Perm o'.skipped := by
  have hdeclarations := g.declarations_eq_of_perm name ho hp hn
  refine ⟨g.output name records, g.output name records', g.build_object name records,
    g.build_object name records', hdeclarations, ?_, hp.filterMap _⟩
  exact congrArg (fun ds => String.join (ds.map Prod.snd)) hdeclarations

/-- A record without parameters. -/
def plainRecord (name description : String) : Value :=
  .object [("name", .string name), ("description", .string description), ("params", .array [])]

def listedRecords : Fields Value :=
  [("0x1", plainRecord "GET_SPEED" "first"), ("0x2", .null), ("0x3", plainRecord "GET_NAME" ""),
   ("0x4", plainRecord "_GET_SPEED" "second"), ("0x5", .bool true)]

/-- The records of `listedRecords`, of which those of `GetSpeed` are still in order. -/
def shuffledRecords : Fields Value :=
  [("0x5", .bool true), ("0x3", plainRecord "GET_NAME" ""),
   ("0x1", plainRecord "GET_SPEED" "first"), ("0x4", plainRecord "_GET_SPEED" "second"),
   ("0x2", .null)]

theorem listedRecords_perm : listedRecords.Perm shuffledRecords := by
  have hn : listedRecords.keys.Nodup := by decide
  have hn' : shuffledRecords.keys.Nodup := by decide
  refine (List.perm_ext_iff_of_nodup (List.Nodup.of_map _ hn) (List.Nodup.of_map _ hn')).mpr ?_
  intro field
  simp only [listedRecords, shuffledRecords, List.mem_cons, List.not_mem_nil, or_false]
  tauto

theorem listedRecords_keepsOrder :
    (Config.generator {}).KeepsOrder "NS" listedRecords shuffledRecords := by
  have hspeed : (Config.generator {}).identifierOf? "NS"
      ("0x1", plainRecord "GET_SPEED" "first") = some "GetSpeed" := by decide +kernel
  have hname : (Config.generator {}).identifierOf? "NS"
      ("0x3", plainRecord "GET_NAME" "") = some "GetName" := by decide +kernel
  have hlater : (Config.generator {}).identifierOf? "NS"
      ("0x4", plainRecord "_GET_SPEED" "second") = some "GetSpeed" := by decide +kernel
  have hnull : (Config.generator {}).identifierOf? "NS" ("0x2", .null) = none := rfl
  have hbool : (Config.generator {}).identifierOf? "NS" ("0x5", .bool true) = none := rfl
  have hpair : [("0x1", plainRecord "GET_SPEED" "first"),
      ("0x4", plainRecord "_GET_SPEED" "second")].Sublist shuffledRecords :=
    .cons _ (.cons _ (.cons_cons _ (.cons_cons _ (List.nil_sublist _))))
  simp [KeepsOrder, listedRecords, hspeed, hname, hlater, hnull, hbool, hpair]

/-- Two records are declared under one identifier, and the later one wins in both orders. -/
theorem build_perm_shuffledRecords :
    ∃ o o', (Config.generator {}).build "NS" (.object listedRecords) = .ok o ∧
      (Config.generator {}).build "NS" (.object shuffledRecords) = .ok o' ∧
      o.declarations.map Prod.fst = ["GetName", "GetSpeed"] ∧
      o.declarations = o'.declarations ∧ o.text = o'.text ∧
      o.skipped.map Skipped.key = ["0x2", "0x5"] ∧ o'.skipped.map Skipped.key = ["0x5", "0x2"] ∧
      o.skipped.Perm o'.skipped := by
  obtain ⟨o, o', hbuild, hbuild', hdeclarations, htext, hskipped⟩ :=
    build_perm _ "NS" listedRecords_keepsOrder listedRecords_perm (by decide)
  have ho := Except.ok.inj (hbuild.symm.trans (build_object _ "NS" listedRecords))
  have ho' := Except.ok.inj (hbuild'.symm.trans (build_object _ "NS" shuffledRecords))
  refine ⟨o, o', hbuild, hbuild', ?_, hdeclarations, htext, ?_, ?_, hskipped⟩
  · rw [ho]
    decide +kernel
  · rw [ho]
    decide +kernel
  · rw [ho']
    decide +kernel

end Generator

end NativeStubs
