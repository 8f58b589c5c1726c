import NativeStubs.Proofs.Documents
import NativeStubs.Proofs.Merge

/-! # Laws of merging

The empty catalog changes nothing on either side, and a catalog that has been merged in once
changes nothing more, so neither does a catalog merged with itself. Where every namespace is an
object, merging is associative too. The two sides of each law agree in the order of namespaces and
of records.
-/

namespace NativeStubs

open Json

namespace Fields

variable {α : Type} {combine : Option α → α → α} {a b c : Fields α}

/-- Values that are combined associatively make the fields they stand in associative. -/
theorem updateAll_assoc (ha : a.keys.Nodup) (hb : b.keys.Nodup) (hc : c.keys.Nodup)
    (h : ∀ k v w, b.get? k = some v → c.get? k = some w →
      combine (some (combine (a.get? k) v)) w = combine (a.get? k) (combine (some v) w))
    (hnone : ∀ w, combine none w = w) :
    updateAll combine (updateAll combine a b) c = updateAll combine a (updateAll combine b c) := by
  have hab := nodup_keys_updateAll combine ha b
  have hbc := nodup_keys_updateAll combine hb c
  refine eq_of_get?_eq (nodup_keys_updateAll _ hab c) ?_ fun k => ?_
  · rw [keys_updateAll _ hab, keys_updateAll _ ha, keys_updateAll _ ha, keys_updateAll _ hb,
      eraseDups_eraseDups_append, eraseDups_append_eraseDups, List.append_assoc]
  · rw [get?_updateAll _ hc, get?_updateAll _ hb, get?_updateAll _ hbc, get?_updateAll _ hc]
    cases hv : b.get? k with
    | none => cases c.get? k <;> simp [hnone]
    | some v =>
      cases hw : c.get? k with
      | none => rfl
      | some w => exact congrArg some (h k v w hv hw)

/-- Fields that have been taken up once have nothing to add. -/
theorem updateAll_updateAll_self (ha : a.keys.Nodup) (hb : b.keys.Nodup)
    (h : ∀ k v, b.get? k = some v →
      combine (some (combine (a.get? k) v)) v = combine (a.get? k) v) :
    updateAll combine (updateAll combine a b) b = updateAll combine a b := by
  have hab := nodup_keys_updateAll combine ha b
  refine eq_of_get?_eq (nodup_keys_updateAll _ hab b) ?_ fun k => ?_
  · rw [keys_updateAll _ hab, keys_updateAll _ ha, eraseDups_eraseDups_append, List.append_assoc,
      ← eraseDups_append_eraseDups, eraseDups_append_of_subset (List.Subset.refl b.keys),
      eraseDups_append_eraseDups]
  · rw [get?_updateAll _ hb, get?_updateAll _ hb]
    cases hv : b.get? k with
    | none => rfl
    | some v => exact congrArg some (h k v hv)

theorem extend_assoc (ha : a.keys.Nodup) (hb : b.keys.Nodup) (hc : c.keys.Nodup) :
    (a.extend b).extend c = a.extend (b.extend c) := by
  simp only [extend_eq_updateAll]
  exact updateAll_assoc ha hb hc (fun _ _ _ _ _ => rfl) fun _ => rfl

theorem extend_extend_self (ha : a.keys.Nodup) (hb : b.keys.Nodup) :
    (a.extend b).extend b = a.extend b := by
  simp only [extend_eq_updateAll]
  exact updateAll_updateAll_self ha hb fun _ _ _ => rfl

theorem extend_self (ha : a.keys.Nodup) : a.extend a = a := by
  have h := extend_extend_self (a := []) List.nodup_nil ha
  rwa [show extend [] a = a from ofList_of_nodup ha] at h

end Fields

namespace Catalog

variable {a b c : Catalog} {name : String} {v w : Value}

theorem merge_empty (a : Catalog) : a.merge empty = a := rfl

/-- A value takes the place of what was there, unless both are objects. -/
theorem joinValue_cases (existing? : Option Value) (v : Value) :
    joinValue existing? v = v ∨
      ∃ fields records : Fields Value, existing? = some (.object fields) ∧ v = .object records ∧
        joinValue existing? v = .object (fields.extend records) := by
  cases hrecords : v.fields? with
  | none => exact Or.inl (joinValue_of_fields?_eq_none _ hrecords)
  | some records =>
    obtain rfl := Value.fields?_eq_some_iff.mp hrecords
    cases existing? with
    | none => exact Or.inl rfl
    | some existing =>
      cases hfields : existing.fields? with
      | none => exact Or.inl (mergeValue_object_of_fields?_eq_none hfields records)
      | some fields =>
        obtain rfl := Value.fields?_eq_some_iff.mp hfields
        exact Or.inr ⟨fields, records, rfl, rfl, rfl⟩

theorem wellFormed_joinValue {existing? : Option Value}
    (hexisting : ∀ existing ∈ existing?, existing.WellFormed) (hv : v.WellFormed) :
    (joinValue existing? v).WellFormed := by
  rcases joinValue_cases existing? v with h | ⟨fields, records, rfl, rfl, h⟩
  · rwa [h]
  · obtain ⟨hn, hfields⟩ := (Value.wellFormed_object_iff fields).mp (hexisting _ rfl)
    obtain ⟨-, hrecords⟩ := (Value.wellFormed_object_iff records).mp hv
    rw [h]
    exact (Value.wellFormed_object_iff _).mpr
      ⟨Fields.nodup_keys_extend hn records, forall_mem_extend hfields hrecords⟩

theorem joinValue_self (hv : v.WellFormed) : joinValue (some v) v = v := by
  rcases joinValue_cases (some v) v with h | ⟨fields, records, hfields, rfl, h⟩
  · exact h
  · cases hfields
    rw [h, Fields.extend_self hv.1]

/-- A value that has been joined in once has nothing to add. -/
theorem joinValue_joinValue_self {existing? : Option Value}
    (hexisting : ∀ existing ∈ existing?, existing.WellFormed) (hv : v.WellFormed) :
    joinValue (some (joinValue existing? v)) v = joinValue existing? v := by
  rcases joinValue_cases existing? v with h | ⟨fields, records, rfl, rfl, h⟩
  · rw [h, joinValue_self hv]
  · have hn : (Fields.keys fields).Nodup := (hexisting _ rfl).1
    rw [h]
    exact congrArg Value.object (Fields.extend_extend_self hn hv.1)

theorem WellFormed.merge (ha : a.WellFormed) (hb : b.WellFormed) : (a.merge b).WellFormed := by
  have hn : (a.merge b).names.Nodup :=
    names_merge ha.nodup_names b ▸ nodup_eraseDups _
  refine (Value.wellFormed_object_iff _).mpr ⟨hn, fun ⟨name, v⟩ hmem => ?_⟩
  have hget := (Fields.get?_eq_some_iff hn).mpr hmem
  rw [get?_merge hb.nodup_names] at hget
  cases hv : b.namespaces.get? name with
  | none =>
    rw [hv] at hget
    exact Value.WellFormed.of_get? ha hget
  | some incoming =>
    rw [hv] at hget
    obtain rfl := Option.some.inj hget
    exact wellFormed_joinValue (fun _ he => Value.WellFormed.of_get? ha he)
      (Value.WellFormed.of_get? hb hv)

theorem merge_merge_self (ha : a.WellFormed) (hb : b.WellFormed) :
    (a.merge b).merge b = a.merge b := by
  have h : ((a.merge b).merge b).namespaces = (a.merge b).namespaces := by
    simp only [namespaces_merge]
    refine Fields.updateAll_updateAll_self ha.nodup_names hb.nodup_names fun name v hv => ?_
    exact joinValue_joinValue_self (fun _ he => Value.WellFormed.of_get? ha he)
      (Value.WellFormed.of_get? hb hv)
  exact congrArg Catalog.mk h

theorem merge_self (ha : a.WellFormed) : a.merge a = a := by
  have h := merge_merge_self (a := empty) ⟨List.nodup_nil, trivial⟩ ha
  rwa [empty_merge ha.nodup_names] at h

/-- Every namespace is an object. -/
def AllObjects (c : Catalog) : Prop := ∀ name v, (name, v) ∈ c.namespaces → v.fields?.isSome

theorem AllObjects.exists_of_get? (h : c.AllObjects) (hv : c.namespaces.get? name = some v) :
    ∃ records, v = .object records := by
  obtain ⟨records, hrecords⟩ :=
    Option.isSome_iff_exists.mp (h name v (Fields.mem_of_get?_eq_some hv))
  exact ⟨records, Value.fields?_eq_some_iff.mp hrecords⟩

theorem joinValue_assoc {existing? : Option Value} {records additions : Fields Value}
    (hexisting : ∀ existing ∈ existing?, ∃ fields : Fields Value,
      existing = .object fields ∧ fields.keys.Nodup)
    (hrecords : records.keys.Nodup) (hadditions : additions.keys.Nodup) :
    joinValue (some (joinValue existing? (.object records))) (.object additions) =
      joinValue existing? (joinValue (some (.object records)) (.object additions)) := by
  cases existing? with
  | none => rfl
  | some existing =>
    obtain ⟨fields, rfl, hfields⟩ := hexisting existing rfl
    exact congrArg Value.object (Fields.extend_assoc hfields hrecords hadditions)

theorem merge_assoc (ha : a.WellFormed) (hb : b.WellFormed) (hc : c.WellFormed)
    (hao : a.AllObjects) (hbo : b.AllObjects) (hco : c.AllObjects) :
    (a.merge b).merge c = a.merge (b.merge c) := by
  have h : ((a.merge b).merge c).namespaces = (a.merge (b.merge c)).namespaces := by
    simp only [namespaces_merge]
    refine Fields.updateAll_assoc ha.nodup_names hb.nodup_names hc.nodup_names
      (fun name v w hv hw => ?_) fun _ => rfl
    obtain ⟨records, rfl⟩ := hbo.exists_of_get? hv
    obtain ⟨additions, rfl⟩ := hco.exists_of_get? hw
    have hrecords : (Fields.keys records).Nodup := (Value.WellFormed.of_get? hb hv).1
    have hadditions : (Fields.keys additions).Nodup := (Value.WellFormed.of_get? hc hw).1
    refine joinValue_assoc (fun existing he => ?_) hrecords hadditions
    obtain ⟨fields, rfl⟩ := hao.exists_of_get? he
    exact ⟨fields, rfl, (Value.WellFormed.of_get? ha he).1⟩
  exact congrArg Catalog.mk h

/-- Merging catalogs gives a catalog. The empty catalog is an identity on both sides, merging a
catalog again changes nothing, and merging catalogs whose namespaces are all objects is
associative. -/
theorem merge_laws (ha : a.WellFormed) (hb : b.WellFormed) (hc : c.WellFormed) :
    (a.merge b).WellFormed ∧ empty.merge a = a ∧ a.merge empty = a ∧ a.merge a = a ∧
      (a.merge b).merge b = a.merge b ∧
      (a.AllObjects → b.AllObjects → c.AllObjects →
        (a.merge b).merge c = a.merge (b.merge c)) :=
  ⟨ha.merge hb, empty_merge ha.nodup_names, merge_empty a, merge_self ha, merge_merge_self ha hb,
    merge_assoc ha hb hc⟩

def firstRevision : Catalog :=
  ⟨[("PED", .object [("0x1", .null), ("0x2", .null)])]⟩

def secondRevision : Catalog :=
  ⟨[("CAM", .object [("0x3", .null)]), ("PED", .object [("0x4", .null), ("0x1", .bool true)])]⟩

def thirdRevision : Catalog :=
  ⟨[("CFX", .object []), ("PED", .object [("0x4", .bool false), ("0x5", .null)])]⟩

/-- Each revision replaces a record of the one before and adds one. -/
theorem merge_laws_revisions :
    (firstRevision.WellFormed ∧ secondRevision.WellFormed ∧ thirdRevision.WellFormed) ∧
      (firstRevision.AllObjects ∧ secondRevision.AllObjects ∧ thirdRevision.AllObjects) ∧
      (firstRevision.merge secondRevision).merge secondRevision =
        firstRevision.merge secondRevision ∧
      firstRevision.merge (secondRevision.merge thirdRevision) =
        ⟨[("PED", .object [("0x1", .bool true), ("0x2", .null), ("0x4", .bool false),
            ("0x5", .null)]),
          ("CAM", .object [("0x3", .null)]), ("CFX", .object [])]⟩ := by
  have ha : firstRevision.WellFormed := by
    simp [firstRevision, WellFormed, Value.WellFormed, Value.WellFormedFields, Fields.keys]
  have hb : secondRevision.WellFormed := by
    simp [secondRevision, WellFormed, Value.WellFormed, Value.WellFormedFields, Fields.keys]
  have hc : thirdRevision.WellFormed := by
    simp [thirdRevision, WellFormed, Value.WellFormed, Value.WellFormedFields, Fields.keys]
  have hao : firstRevision.AllObjects := by simp [firstRevision, AllObjects, Value.fields?]
  have hbo : secondRevision.AllObjects := by
    simp [secondRevision, AllObjects, Value.fields?, or_imp, forall_and]
  have hco : thirdRevision.AllObjects := by
    simp [thirdRevision, AllObjects, Value.fields?, or_imp, forall_and]
  obtain ⟨-, -, -, -, hagain, hassoc⟩ := merge_laws ha hb hc
  exact ⟨⟨ha, hb, hc⟩, ⟨hao, hbo, hco⟩, hagain, (hassoc hao hbo hco).symm.trans rfl⟩

/-- A value that is no object keeps merging from being associative: it wipes out the records before
it, unless what comes after it has taken its place first. -/
example :
    ((firstRevision.merge ⟨[("PED", .null)]⟩).merge secondRevision).nativeCount = 3 ∧
      (firstRevision.merge (Catalog.merge ⟨[("PED", .null)]⟩ secondRevision)).nativeCount = 4 := by
  decide

end Catalog

end NativeStubs
