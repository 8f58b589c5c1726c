import NativeStubs.Proofs.Merge
import NativeStubs.Proofs.Trace

/-! # Runs of a merged catalog

Where two catalogs share no record, generating from both merged overlays what each of them gives:
in a namespace that both have, the declarations of the second replace those of the first with the
same identifier, and every other namespace comes out as it does alone.
-/

namespace NativeStubs

open Json

namespace Fields

variable {α : Type} {fields additions : Fields α} {k : String} {v : α} (weight : α → Nat)

theorem exists_get?_eq_some (h : k ∈ fields.keys) : ∃ v, fields.get? k = some v := by
  rw [← Option.isSome_iff_exists, Option.isSome_iff_ne_none, ne_eq, get?_eq_none_iff, not_not]
  exact h

def total (fields : Fields α) : Nat := (fields.map fun field => weight field.2).sum

/-- Setting a value changes the total by that value, less the one it takes the place of. -/
theorem total_insert (fields : Fields α) (k : String) (v : α) :
    total weight (fields.insert k v) + ((fields.get? k).elim 0 weight) =
      total weight fields + weight v := by
  induction fields with
  | nil => simp [total]
  | cons field rest ih =>
    obtain ⟨key, value⟩ := field
    rw [get?_cons]
    by_cases h : key = k
    · simp [insert, total, h]
      omega
    · simp [insert, total, h] at ih ⊢
      omega

theorem total_updateAll {combine : Option α → α → α} (hn : additions.keys.Nodup)
    (h : ∀ field ∈ additions, weight (combine (fields.get? field.1) field.2) =
      (fields.get? field.1).elim 0 weight + weight field.2) :
    total weight (updateAll combine fields additions) =
      total weight fields + total weight additions := by
  induction additions generalizing fields with
  | nil => rfl
  | cons field rest ih =>
    obtain ⟨hkey, hrest⟩ := List.nodup_cons.mp hn
    have hset := total_insert weight fields field.1 (combine (fields.get? field.1) field.2)
    have hweight := h field List.mem_cons_self
    rw [updateAll_cons, ih hrest]
    · simp only [update, total, List.map_cons, List.sum_cons] at hset ⊢
      omega
    · -- The other fields to come have other keys.
      intro later hlater
      have hne : field.1 ≠ later.1 := fun he => hkey (he ▸ mem_keys_of_mem hlater)
      rw [update, get?_insert, if_neg hne]
      exact h later (List.mem_cons_of_mem _ hlater)

end Fields

namespace Catalog

variable {a b : Catalog}

/-- Two catalogs without a record in common: a namespace that both have is an object in both, and
the two objects have no key in common. -/
def Separate (a b : Catalog) : Prop :=
  ∀ name va vb, (name, va) ∈ a.namespaces → (name, vb) ∈ b.namespaces →
    ∃ ra rb : Fields Value, va = .object ra ∧ vb = .object rb ∧ ra.keys.Disjoint rb.keys

theorem joinValue_object_of_disjoint {ra rb : Fields Value} (ha : ra.keys.Nodup)
    (hb : rb.keys.Nodup) (hd : ra.keys.Disjoint rb.keys) :
    joinValue (some (.object ra)) (.object rb) = .object (ra ++ rb) := by
  have hn : (Fields.keys (ra ++ rb)).Nodup := by
    rw [Fields.keys, List.map_append]
    exact ha.append hb hd
  exact congrArg Value.object (Fields.extend_of_nodup rb hn)

theorem WellFormed.nodup_keys {c : Catalog} (h : c.WellFormed) {name : String}
    {records : Fields Value} (hv : c.namespaces.get? name = some (.object records)) :
    records.keys.Nodup :=
  (Value.WellFormed.of_get? h hv).1

theorem nativeCount_eq_total (c : Catalog) :
    c.nativeCount = Fields.total recordCount c.namespaces := by
  rw [nativeCount, Fields.total, List.sum_eq_foldr, List.foldr_map]

theorem nativeCount_merge (ha : a.WellFormed) (hb : b.WellFormed) (h : Separate a b) :
    (a.merge b).nativeCount = a.nativeCount + b.nativeCount := by
  simp only [nativeCount_eq_total, namespaces_merge]
  refine Fields.total_updateAll recordCount hb.nodup_names fun field hfield => ?_
  cases hva : a.namespaces.get? field.1 with
  | none => simp [joinValue]
  | some va =>
    obtain ⟨ra, rb, rfl, hvb, hd⟩ :=
      h field.1 va field.2 (Fields.mem_of_get?_eq_some hva) hfield
    have hget : b.namespaces.get? field.1 = some (.object rb) :=
      hvb ▸ (Fields.get?_eq_some_iff hb.nodup_names).mpr hfield
    rw [hvb, joinValue_object_of_disjoint (ha.nodup_keys hva) (hb.nodup_keys hget) hd]
    simp [recordCount, Value.fields?]

end Catalog

namespace Generator

variable (g : Generator) (name : String)

/-- The records of a second object come after those of the first, so their declarations stay. -/
theorem mem_declarations_append (ra rb : Fields Value) (d : String × String) :
    d ∈ g.declarations name (ra ++ rb) ↔
      d ∈ g.declarations name rb ∨
        d ∈ g.declarations name ra ∧ d.1 ∉ (g.declarations name rb).map Prod.fst := by
  obtain ⟨identifier, text⟩ := d
  rw [mem_identifiers, mem_declarations, mem_declarations, mem_declarations]
  induction rb using List.reverseRecOn with
  | nil => simp [LastDeclared]
  | append_singleton rb field ih =>
    have hsome : (∃ f ∈ rb ++ [field], g.identifierOf? name f = some identifier) ↔
        (∃ f ∈ rb, g.identifierOf? name f = some identifier) ∨
          g.identifierOf? name field = some identifier := by
      simp [or_and_right, exists_or]
    rw [← List.append_assoc, lastDeclared_append_singleton, ih, lastDeclared_append_singleton,
      hsome, not_or]
    constructor
    · rintro (hd | ⟨hlast | ⟨hlast, hb⟩, hne⟩)
      · exact Or.inl (Or.inl hd)
      · exact Or.inl (Or.inr ⟨hlast, hne⟩)
      · exact Or.inr ⟨hlast, hb, hne⟩
    · rintro ((hd | ⟨hlast, hne⟩) | ⟨hlast, hb, hne⟩)
      · exact Or.inl hd
      · exact Or.inr ⟨Or.inl hlast, hne⟩
      · exact Or.inr ⟨Or.inr ⟨hlast, hb⟩, hne⟩

/-- What a run of a catalog makes of one of its namespaces. -/
def built? (c : Catalog) (name : String) : Option (Except Error NamespaceOutput) :=
  (c.namespaces.get? name).map (g.build name)

variable {a b : Catalog} {name : String}

theorem built?_merge_of_notMem_left (hb : b.names.Nodup) (hname : name ∉ a.names) :
    g.built? (a.merge b) name = g.built? b name := by
  have hget : a.namespaces.get? name = none := Fields.get?_eq_none_iff.mpr hname
  rw [built?, built?, Catalog.get?_merge hb, hget]
  cases b.namespaces.get? name <;> rfl

theorem built?_merge_of_notMem_right (hb : b.names.Nodup) (hname : name ∉ b.names) :
    g.built? (a.merge b) name = g.built? a name := by
  have hget : b.namespaces.get? name = none := Fields.get?_eq_none_iff.mpr hname
  rw [built?, built?, Catalog.get?_merge hb, hget]
  rfl

theorem built?_merge_of_mem (ha : a.WellFormed) (hb : b.WellFormed)
    (hseparate : Catalog.Separate a b) (hna : name ∈ a.names) (hnb : name ∈ b.names) :
    ∃ ra rb : Fields Value, g.built? a name = some (.ok (g.output name ra)) ∧
      g.built? b name = some (.ok (g.output name rb)) ∧
      g.built? (a.merge b) name = some (.ok (g.output name (ra ++ rb))) := by
  obtain ⟨va, hva⟩ := Fields.exists_get?_eq_some hna
  obtain ⟨vb, hvb⟩ := Fields.exists_get?_eq_some hnb
  obtain ⟨ra, rb, rfl, rfl, hd⟩ :=
    hseparate name va vb (Fields.mem_of_get?_eq_some hva) (Fields.mem_of_get?_eq_some hvb)
  have hmerged : (a.merge b).namespaces.get? name = some (.object (ra ++ rb)) := by
    rw [Catalog.get?_merge hb.nodup_names, hva, hvb, Option.elim_some,
      Catalog.joinValue_object_of_disjoint (ha.nodup_keys hva) (hb.nodup_keys hvb) hd]
  exact ⟨ra, rb, by simp [built?, hva], by simp [built?, hvb], by simp [built?, hmerged]⟩

theorem totalNatives_of_run {σ : Type} {w : Writer (StateM σ)} {c : Catalog} {s : σ}
    {report : Report} (hc : c.names.Nodup) (h : ((g.run w c).run s).1 = .ok report) :
    report.totalNatives = c.nativeCount := by
  cases hp : ((w.prepare c.names).run s).1 with
  | error error =>
    rw [(g.run_of_prepare_error w hp).1] at h
    cases h
  | ok _ =>
    obtain ⟨refuse, hr⟩ := g.exists_refusedBy_trace w hc s
    rw [(g.run_of_prepare_ok w hp hr).1] at h
    obtain rfl := Except.ok.inj h
    rfl

/-- Generating from a merged catalog overlays what its parts give. In a namespace of both, a
declaration of the first part stays unless the second one declares its identifier too, and the
records skipped are those of the first and then those of the second. The other namespaces are built
as in the part they come from, and the natives of a run are those of the two runs together. -/
theorem run_merge_overlays (ha : a.WellFormed) (hb : b.WellFormed)
    (hseparate : Catalog.Separate a b) :
    (∀ name ∈ a.names, name ∈ b.names →
      ∃ oa ob o, g.built? a name = some (.ok oa) ∧ g.built? b name = some (.ok ob) ∧
        g.built? (a.merge b) name = some (.ok o) ∧ o.declarations.Increasing ∧
        (∀ d, d ∈ o.declarations ↔
          d ∈ ob.declarations ∨
            d ∈ oa.declarations ∧ d.1 ∉ ob.declarations.map Prod.fst) ∧
        o.skipped = oa.skipped ++ ob.skipped) ∧
      (∀ name ∉ b.names, g.built? (a.merge b) name = g.built? a name) ∧
      (∀ name ∉ a.names, g.built? (a.merge b) name = g.built? b name) ∧
      ∀ {σ σa σb : Type} (w : Writer (StateM σ)) (wa : Writer (StateM σa))
        (wb : Writer (StateM σb)) (s : σ) (sa : σa) (sb : σb) (report reportA reportB : Report),
        ((g.run w (a.merge b)).run s).1 = .ok report →
        ((g.run wa a).run sa).1 = .ok reportA → ((g.run wb b).run sb).1 = .ok reportB →
        report.totalNatives = reportA.totalNatives + reportB.totalNatives := by
  refine ⟨fun name hna hnb => ?_, fun name => g.built?_merge_of_notMem_right hb.nodup_names,
    fun name => g.built?_merge_of_notMem_left hb.nodup_names, ?_⟩
  · obtain ⟨ra, rb, hoa, hob, ho⟩ := g.built?_merge_of_mem ha hb hseparate hna hnb
    refine ⟨_, _, _, hoa, hob, ho, g.increasing_declarations name _,
      g.mem_declarations_append name ra rb, ?_⟩
    exact List.filterMap_append
  · intro σ σa σb w wa wb s sa sb report reportA reportB hrun hrunA hrunB
    have hmerged : (a.merge b).names.Nodup :=
      Catalog.names_merge ha.nodup_names b ▸ nodup_eraseDups _
    rw [g.totalNatives_of_run hmerged hrun, g.totalNatives_of_run ha.nodup_names hrunA,
      g.totalNatives_of_run hb.nodup_names hrunB, Catalog.nativeCount_merge ha hb hseparate]

/-- A record that declares a native of this name. -/
def namedRecord (name hash : String) : Value :=
  .object [("name", .string name), ("hash", .string hash), ("params", .array [])]

def gameCatalog : Catalog :=
  ⟨[("PED", .object [("0x1", namedRecord "GET_PED" "0x1"), ("0x2", .null)]),
    ("CAM", .object [("0x3", namedRecord "RENDER" "0x3")])]⟩

/-- A catalog that declares one native of `gameCatalog` under another key. -/
def serverCatalog : Catalog :=
  ⟨[("PED", .object [("0x4", .bool true), ("0x5", namedRecord "get_ped" "0x5")])]⟩

/-- The native that both catalogs declare is declared as in the second one. -/
theorem run_merge_overlays_server :
    gameCatalog.WellFormed ∧ serverCatalog.WellFormed ∧
      Catalog.Separate gameCatalog serverCatalog ∧
      (∃ o ob, (Config.generator {}).built? (gameCatalog.merge serverCatalog) "PED" =
          some (.ok o) ∧
        (Config.generator {}).built? serverCatalog "PED" = some (.ok ob) ∧
        (∀ d, d ∈ o.declarations ↔ d ∈ ob.declarations) ∧
        o.skipped.map (·.key) = ["0x2", "0x4"]) ∧
      ∃ report,
        (((Config.generator {}).run Memory.writer (gameCatalog.merge serverCatalog)).run {}).1 =
          .ok report ∧
        report.totalNatives = 3 + 2 := by
  have ha : gameCatalog.WellFormed := by
    simp [gameCatalog, namedRecord, Catalog.WellFormed, Value.WellFormed, Value.WellFormedFields,
      Value.WellFormedItems, Fields.keys]
  have hb : serverCatalog.WellFormed := by
    simp [serverCatalog, namedRecord, Catalog.WellFormed, Value.WellFormed,
      Value.WellFormedFields, Value.WellFormedItems, Fields.keys]
  have hseparate : Catalog.Separate gameCatalog serverCatalog := by
    intro name va vb hva hvb
    simp only [gameCatalog, serverCatalog, List.mem_cons, List.not_mem_nil, or_false,
      Prod.mk.injEq] at hva hvb
    obtain ⟨rfl, rfl⟩ := hvb
    rcases hva with ⟨-, rfl⟩ | ⟨hne, -⟩
    · exact ⟨_, _, rfl, rfl, by simp [Fields.keys]⟩
    · exact absurd hne (by decide)
  obtain ⟨hshared, -, -, htotal⟩ :=
    (Config.generator {}).run_merge_overlays ha hb hseparate
  obtain ⟨oa, ob, o, hoa, hob, ho, -, hmem, hskipped⟩ :=
    hshared "PED" (by decide) (by decide)
  refine ⟨ha, hb, hseparate, ⟨o, ob, ho, hob, fun d => ?_, ?_⟩, ?_⟩
  · have hreplaced : ∀ d ∈ oa.declarations, d.1 ∈ ob.declarations.map Prod.fst := by
      obtain rfl := Except.ok.inj (Option.some.inj hoa)
      obtain rfl := Except.ok.inj (Option.some.inj hob)
      decide +kernel
    rw [hmem]
    exact or_iff_left fun h => h.2 (hreplaced d h.1)
  · obtain rfl := Except.ok.inj (Option.some.inj hoa)
    obtain rfl := Except.ok.inj (Option.some.inj hob)
    rw [hskipped]
    decide +kernel
  · have hrun (c : Catalog) := ((Config.generator {}).run_of_prepare_ok (c := c) (s := {})
      Memory.writer rfl ((Config.generator {}).refusedBy_trace_refusingWriter none _ c {})).1
    refine ⟨_, hrun _, ?_⟩
    rw [htotal _ _ _ _ _ _ _ _ _ (hrun _) (hrun gameCatalog) (hrun serverCatalog)]
    rfl

end Generator

end NativeStubs
