import Mathlib.Data.List.Dedup
import NativeStubs.Proofs.Trace

/-! # Every native is accounted for

A native of a catalog is generated, skipped, superseded by a later one with its identifier, or lost
with a namespace that the writer refuses. The counts of a report add up accordingly.
-/

namespace NativeStubs

open Json

namespace Generator

variable (g : Generator) (name : String)

/-- The records that are declared under an identifier that a later record has too. -/
def superseded : Fields Value → Fields Value
  | [] => []
  | field :: rest =>
    if (g.identifierOf? name field).isSome ∧
        g.identifierOf? name field ∈ rest.map (g.identifierOf? name) then
      field :: superseded rest
    else superseded rest

def supersededCount (v : Value) : Nat := (g.superseded name (v.fields?.getD [])).length

def declarationCount (v : Value) : Nat :=
  match g.build name v with
  | .ok o => o.declarations.length
  | .error _ => 0

def identifiers (records : Fields Value) : List String :=
  records.filterMap (g.identifierOf? name)

theorem length_identifiers (records : Fields Value) :
    (g.identifiers name records).length + (records.filterMap (g.skip? name)).length =
      records.length := by
  induction records with
  | nil => rfl
  | cons field rest ih =>
    rw [identifiers] at ih ⊢
    cases h : g.declare name field.1 field.2 with
    | ok declared =>
      have hi : g.identifierOf? name field = some declared.1 := by
        simp [identifierOf?, h, Except.toOption]
      have hs : g.skip? name field = none := by simp [skip?, h]
      rw [List.filterMap_cons_some hi, List.filterMap_cons_none hs]
      simp only [List.length_cons]
      omega
    | error error =>
      have hi : g.identifierOf? name field = none := by simp [identifierOf?, h, Except.toOption]
      have hs : g.skip? name field = some ⟨name, field.1, error⟩ := by simp [skip?, h]
      rw [List.filterMap_cons_none hi, List.filterMap_cons_some hs]
      simp only [List.length_cons]
      omega

/-- What is not superseded is the last of its identifier. -/
theorem length_superseded (records : Fields Value) :
    (g.superseded name records).length + (g.identifiers name records).dedup.length =
      (g.identifiers name records).length := by
  induction records with
  | nil => rfl
  | cons field rest ih =>
    rw [identifiers] at ih ⊢
    rw [superseded]
    cases h : g.identifierOf? name field with
    | none =>
      rw [List.filterMap_cons_none h]
      simpa using ih
    | some identifier =>
      rw [List.filterMap_cons_some h]
      have hmem : some identifier ∈ rest.map (g.identifierOf? name) ↔
          identifier ∈ rest.filterMap (g.identifierOf? name) := by
        simp [List.mem_filterMap]
      by_cases hi : identifier ∈ rest.filterMap (g.identifierOf? name)
      · rw [if_pos ⟨rfl, hmem.mpr hi⟩, List.dedup_cons_of_mem hi]
        simp only [List.length_cons]
        omega
      · rw [if_neg (fun h => hi (hmem.mp h.2)), List.dedup_cons_of_notMem hi]
        simp only [List.length_cons]
        omega

theorem perm_dedup_identifiers (records : Fields Value) :
    ((g.declarations name records).map Prod.fst).Perm (g.identifiers name records).dedup := by
  have hnodup : ((g.declarations name records).map Prod.fst).Nodup :=
    List.pairwise_map.mpr ((g.increasing_declarations name records).imp fun h => h.ne)
  refine (List.perm_ext_iff_of_nodup hnodup (List.nodup_dedup _)).mpr fun identifier => ?_
  rw [mem_identifiers, List.mem_dedup, identifiers, List.mem_filterMap]

theorem length_records (records : Fields Value) :
    records.length = (g.declarations name records).length +
      (records.filterMap (g.skip? name)).length + (g.superseded name records).length := by
  have hi := g.length_identifiers name records
  have hs := g.length_superseded name records
  have hd := (g.perm_dedup_identifiers name records).length_eq
  rw [List.length_map] at hd
  omega

variable (refuse : String → Option Error)

/-- The records of a namespace are declared, skipped, superseded or lost. -/
theorem recordCount_eq (field : String × Value) :
    Catalog.recordCount field.2 =
      (((g.written? refuse field).map Prod.snd).getD 0 + (g.skippedIn field).length) +
        g.supersededCount field.1 field.2 +
          (if (refuse field.1).isSome then g.declarationCount field.1 field.2 else 0) := by
  cases hv : field.2.fields? with
  | none => simp [Catalog.recordCount, written?, skippedIn, supersededCount, declarationCount,
      build_eq, hv, superseded]
  | some records =>
    have hl := g.length_records field.1 records
    cases hr : refuse field.1 <;>
      simp only [Catalog.recordCount, written?, skippedIn, supersededCount, declarationCount,
        build_eq, hv, hr, output, Option.getD_some, Option.map_some, Option.map_none,
        Option.getD_none, Option.isSome_some, Option.isSome_none, Bool.false_eq_true, if_true,
        if_false] <;>
      omega

theorem nativeCount_eq (fields : Fields Value) :
    Catalog.nativeCount ⟨fields⟩ =
      ((fields.filterMap (g.written? refuse)).map Prod.snd).sum +
        (fields.flatMap g.skippedIn).length +
          (fields.map fun (name, v) => g.supersededCount name v).sum +
            (fields.map fun (name, v) =>
              if (refuse name).isSome then g.declarationCount name v else 0).sum := by
  induction fields with
  | nil => rfl
  | cons field rest ih =>
    have hcount := g.recordCount_eq refuse field
    have hcons : Catalog.nativeCount ⟨field :: rest⟩ =
        Catalog.recordCount field.2 + Catalog.nativeCount ⟨rest⟩ := rfl
    rw [hcons, ih, hcount]
    cases hw : g.written? refuse field with
    | none =>
      rw [List.filterMap_cons_none hw]
      simp only [Option.map_none, Option.getD_none, List.flatMap_cons, List.length_append,
        List.map_cons, List.sum_cons]
      omega
    | some written =>
      rw [List.filterMap_cons_some hw]
      simp only [Option.map_some, Option.getD_some, List.flatMap_cons, List.length_append,
        List.map_cons, List.sum_cons]
      omega

/-- Of all natives in a catalog, those that a run does not generate are skipped, superseded, or in
a namespace that the writer refuses. -/
theorem totalNatives_eq {σ : Type} (w : Writer (StateM σ)) (c : Catalog) (s : σ) {report : Report}
    (hrefuse : RefusedBy refuse (g.trace w c s)) (hrun : ((g.run w c).run s).1 = .ok report) :
    report.totalNatives = report.generated + report.skipped.length +
        (c.namespaces.map fun (name, v) => g.supersededCount name v).sum +
        (c.namespaces.map fun (name, v) =>
          if (refuse name).isSome then g.declarationCount name v else 0).sum ∧
      report.generated = (report.namespaces.map Prod.snd).sum := by
  cases hp : ((w.prepare c.names).run s).1 with
  | error error =>
    rw [(g.run_of_prepare_error w hp).1] at hrun
    cases hrun
  | ok _ =>
    rw [(g.run_of_prepare_ok w hp hrefuse).1] at hrun
    obtain rfl := Except.ok.inj hrun
    have hcount := g.nativeCount_eq refuse c.namespaces
    simpa [settle, start] using hcount

/-- One native of `mixedCatalog` is superseded and one is lost with its namespace. -/
theorem totalNatives_eq_mixed :
    RefusedBy refuseCam ((Config.generator {}).trace
      (Memory.refusingWriter none refuseCam) mixedCatalog {}) ∧
    ∃ report,
      (((Config.generator {}).run (Memory.refusingWriter none refuseCam) mixedCatalog).run {}).1 =
        .ok report ∧
      report.totalNatives = report.generated + report.skipped.length + 1 + 1 ∧
      report.generated = (report.namespaces.map Prod.snd).sum := by
  have hr := (Config.generator {}).refusedBy_trace_refusingWriter none refuseCam mixedCatalog {}
  have hrun := ((Config.generator {}).run_of_prepare_ok _ rfl hr).1
  have htotal := (Config.generator {}).totalNatives_eq refuseCam _ _ _ hr hrun
  have hsuperseded : (mixedCatalog.namespaces.map fun (name, v) =>
      (Config.generator {}).supersededCount name v).sum = 1 := by decide +kernel
  have hrefused : (mixedCatalog.namespaces.map fun (name, v) =>
      if (refuseCam name).isSome then (Config.generator {}).declarationCount name v
      else 0).sum = 1 := by decide +kernel
  rw [hsuperseded, hrefused] at htotal
  exact ⟨hr, _, hrun, htotal⟩

end Generator

end NativeStubs
