import Mathlib.Data.List.DropRight
import NativeStubs.Catalog
import NativeStubs.Proofs.Grammar
import NativeStubs.Proofs.Overlay

/-! # Merged catalogs

However many catalogs are merged, the result can be read off them directly. Namespaces stand in the
order of their first appearance. A namespace has the last value given for it if that is no object;
otherwise the objects given for it since its last other value are laid over each other, so that
every key keeps its first place and takes its last record.
-/

namespace NativeStubs

open Json

theorem Json.Value.fields?_eq_some_iff {v : Value} {fields : Fields Value} :
    v.fields? = some fields ↔ v = .object fields := by
  cases v <;> simp [fields?]

namespace Catalog

variable {c other : Catalog} {cs : List Catalog} {name : String} {v : Value}

def mergeAll : List Catalog → Catalog
  | [] => empty
  | first :: rest => rest.foldl merge first

/-- The value of a namespace, if it has one yet, with another catalog's value for it. -/
def joinValue (existing? : Option Value) (incoming : Value) : Value :=
  existing?.elim incoming (mergeValue · incoming)

theorem mergeNamespace_eq_update (namespaces : Fields Value) (field : String × Value) :
    mergeNamespace namespaces field.1 field.2 = Fields.update joinValue namespaces field := by
  unfold mergeNamespace Fields.update joinValue
  cases namespaces.get? field.1 <;> rfl

theorem namespaces_merge (c other : Catalog) :
    (c.merge other).namespaces =
      Fields.updateAll joinValue c.namespaces other.namespaces := by
  change other.namespaces.foldl (fun acc field => mergeNamespace acc field.1 field.2)
    c.namespaces = _
  simp only [mergeNamespace_eq_update]
  rfl

theorem names_merge (hc : c.names.Nodup) (other : Catalog) :
    (c.merge other).names = (c.names ++ other.names).eraseDups := by
  rw [names, namespaces_merge, Fields.keys_updateAll _ hc, names, names]

theorem get?_merge (ho : other.names.Nodup) (c : Catalog) (name : String) :
    (c.merge other).namespaces.get? name =
      (other.namespaces.get? name).elim (c.namespaces.get? name) fun v =>
        some (joinValue (c.namespaces.get? name) v) := by
  rw [namespaces_merge, Fields.get?_updateAll _ ho]

theorem empty_merge (hc : c.names.Nodup) : empty.merge c = c := by
  have hkeys : (empty.merge c).names = c.names := by
    rw [names_merge (c := empty) List.nodup_nil]
    exact eraseDups_of_nodup hc
  have hn : (empty.merge c).names.Nodup := hkeys.symm ▸ hc
  have hget (name : String) :
      (empty.merge c).namespaces.get? name = c.namespaces.get? name := by
    rw [get?_merge hc]
    cases c.namespaces.get? name <;> rfl
  have hfields : (empty.merge c).namespaces = c.namespaces :=
    Fields.eq_of_get?_eq hn hkeys hget
  exact congrArg Catalog.mk hfields

/-- Merging is done from the left. -/
theorem mergeAll_concat (hc : c.names.Nodup) (cs : List Catalog) :
    mergeAll (cs ++ [c]) = (mergeAll cs).merge c := by
  cases cs with
  | nil => exact (empty_merge hc).symm
  | cons first rest => simp [mergeAll]

/-- The values given for a namespace, in the order of the catalogs. -/
def valuesOf (cs : List Catalog) (name : String) : List Value :=
  cs.filterMap (·.namespaces.get? name)

/-- The objects after the last value that is no object. -/
def closingObjects (values : List Value) : List (Fields Value) :=
  (values.rtakeWhile (·.fields?.isSome)).filterMap Value.fields?

/-- What the values given for a namespace come to: the last one if it is no object, or else the
objects at the end laid over each other. -/
def joined? (values : List Value) : Option Value :=
  values.getLast?.map fun last =>
    match last with
    | .object _ => .object (Fields.overlay (closingObjects values))
    | v => v

theorem closingObjects_concat_object (values : List Value) (records : Fields Value) :
    closingObjects (values ++ [.object records]) = closingObjects values ++ [records] := by
  simp [closingObjects, Value.fields?]

theorem closingObjects_concat_of_fields?_eq_none (values : List Value) (h : v.fields? = none) :
    closingObjects (values ++ [v]) = [] := by
  simp [closingObjects, h]

theorem joined?_concat_object (values : List Value) (records : Fields Value) :
    joined? (values ++ [.object records]) =
      some (.object (Fields.overlay (closingObjects values ++ [records]))) := by
  simp [joined?, closingObjects_concat_object]

theorem joined?_concat_of_fields?_eq_none (values : List Value) (h : v.fields? = none) :
    joined? (values ++ [v]) = some v := by
  cases v with
  | object records => cases h
  | _ => simp [joined?]

theorem mergeValue_of_fields?_eq_none (existing : Value) (h : v.fields? = none) :
    mergeValue existing v = v := by
  cases v with
  | object records => cases h
  | _ => cases existing <;> rfl

theorem mergeValue_object_of_fields?_eq_none (h : v.fields? = none) (records : Fields Value) :
    mergeValue v (.object records) = .object records := by
  cases v with
  | object fields => cases h
  | _ => rfl

theorem joinValue_of_fields?_eq_none (existing? : Option Value) (h : v.fields? = none) :
    joinValue existing? v = v := by
  cases existing? with
  | none => rfl
  | some existing => exact mergeValue_of_fields?_eq_none existing h

/-- An object extends what the objects at the end come to. -/
theorem joinValue_joined?_object (values : List Value) (records : Fields Value)
    (hn : records.keys.Nodup) :
    joinValue (joined? values) (.object records) =
      .object (Fields.overlay (closingObjects values ++ [records])) := by
  rw [Fields.overlay_concat _ hn]
  have hnew : Fields.extend (Fields.overlay []) records = records := Fields.ofList_of_nodup hn
  rcases List.eq_nil_or_concat' values with rfl | ⟨values, last, rfl⟩
  · exact (congrArg Value.object hnew).symm
  · cases hl : last.fields? with
    | none =>
      rw [joined?_concat_of_fields?_eq_none _ hl, closingObjects_concat_of_fields?_eq_none _ hl,
        hnew]
      exact mergeValue_object_of_fields?_eq_none hl records
    | some fields =>
      obtain rfl := Value.fields?_eq_some_iff.mp hl
      rw [joined?_concat_object, closingObjects_concat_object]
      rfl

theorem joined?_concat (values : List Value) (hv : v.WellFormed) :
    joined? (values ++ [v]) = some (joinValue (joined? values) v) := by
  cases h : v.fields? with
  | none => rw [joined?_concat_of_fields?_eq_none _ h, joinValue_of_fields?_eq_none _ h]
  | some records =>
    obtain rfl := Value.fields?_eq_some_iff.mp h
    rw [joined?_concat_object, joinValue_joined?_object _ _ hv.1]

/-- A merged catalog read off the catalogs it is made of. -/
def overlay (cs : List Catalog) : Catalog :=
  ⟨Fields.tabulate (cs.flatMap names).eraseDups fun name => joined? (valuesOf cs name)⟩

theorem WellFormed.nodup_names (h : c.WellFormed) : c.names.Nodup := h.1

theorem names_mergeAll (h : ∀ c ∈ cs, c.WellFormed) :
    (mergeAll cs).names = (cs.flatMap names).eraseDups := by
  induction cs using List.reverseRecOn with
  | nil => rfl
  | append_singleton cs c ih =>
    obtain ⟨hcs, hc⟩ := List.forall_mem_append.mp h
    have hlast : c.names.Nodup := (hc c List.mem_cons_self).nodup_names
    have hmerged : (mergeAll cs).names.Nodup := ih hcs ▸ nodup_eraseDups _
    rw [mergeAll_concat hlast, names_merge hmerged, ih hcs, eraseDups_eraseDups_append,
      List.flatMap_append, List.flatMap_singleton]

theorem get?_mergeAll (h : ∀ c ∈ cs, c.WellFormed) (name : String) :
    (mergeAll cs).namespaces.get? name = joined? (valuesOf cs name) := by
  induction cs using List.reverseRecOn with
  | nil => rfl
  | append_singleton cs c ih =>
    obtain ⟨hcs, hc⟩ := List.forall_mem_append.mp h
    have hlast : c.WellFormed := hc c List.mem_cons_self
    rw [mergeAll_concat hlast.nodup_names, get?_merge hlast.nodup_names, ih hcs]
    cases hv : c.namespaces.get? name with
    | none => simp [valuesOf, hv]
    | some v =>
      have hvalues : valuesOf (cs ++ [c]) name = valuesOf cs name ++ [v] := by
        simp [valuesOf, hv]
      rw [hvalues, joined?_concat _ (Value.WellFormed.of_get? hlast hv)]
      rfl

theorem exists_closingObjects (values : List Value) :
    ∃ before, values = before ++ (closingObjects values).map .object ∧
      ∀ last ∈ before.getLast?, last.fields? = none := by
  induction values using List.reverseRecOn with
  | nil => exact ⟨[], rfl, by simp⟩
  | append_singleton values v ih =>
    cases h : v.fields? with
    | none =>
      rw [closingObjects_concat_of_fields?_eq_none _ h]
      refine ⟨values ++ [v], by simp, ?_⟩
      rw [List.getLast?_concat]
      rintro last ⟨⟩
      exact h
    | some records =>
      obtain rfl := Value.fields?_eq_some_iff.mp h
      obtain ⟨before, hvalues, hbefore⟩ := ih
      refine ⟨before, ?_, hbefore⟩
      rw [closingObjects_concat_object, List.map_append, ← List.append_assoc, ← hvalues]
      rfl

/-- What the values given for a namespace come to, said of the result: it is the last value, if
that is no object, or an object made of the objects since the last other value. -/
inductive ComesTo (values : List Value) : Value → Prop
  | last {v : Value} (hv : v.fields? = none) (hlast : values.getLast? = some v) : ComesTo values v
  | objects {before : List Value} {rows : List (Fields Value)} {records : Fields Value}
    (hvalues : values = before ++ rows.map .object) (hrows : rows ≠ [])
    (hbefore : ∀ last ∈ before.getLast?, last.fields? = none)
    (hkeys : records.keys = (rows.flatMap Fields.keys).eraseDups) (hnodup : records.keys.Nodup)
    (hrecords : ∀ key record, (key, record) ∈ records ↔ Fields.last? rows key = some record) :
    ComesTo values (.object records)

theorem comesTo_of_joined? {values : List Value} (h : joined? values = some v) :
    ComesTo values v := by
  rcases List.eq_nil_or_concat' values with rfl | ⟨values, last, rfl⟩
  · cases h
  · cases hlast : last.fields? with
    | none =>
      rw [joined?_concat_of_fields?_eq_none _ hlast] at h
      obtain rfl := Option.some.inj h
      exact .last hlast (List.getLast?_concat ..)
    | some row =>
      obtain rfl := Value.fields?_eq_some_iff.mp hlast
      rw [joined?_concat_object] at h
      obtain rfl := Option.some.inj h
      obtain ⟨before, hvalues, hbefore⟩ := exists_closingObjects (values ++ [.object row])
      rw [closingObjects_concat_object] at hvalues
      have hn := Fields.nodup_keys_overlay (closingObjects values ++ [row])
      refine .objects hvalues (by simp) hbefore (Fields.keys_overlay _) hn fun key record => ?_
      rw [← Fields.get?_eq_some_iff hn, Fields.get?_overlay]

theorem mergeAll_eq_tabulate (h : ∀ c ∈ cs, c.WellFormed) : mergeAll cs = overlay cs := by
  have hnames := names_mergeAll h
  have hn : (mergeAll cs).names.Nodup := hnames ▸ nodup_eraseDups _
  exact congrArg Catalog.mk (Fields.eq_tabulate hn hnames (get?_mergeAll h))

/-- Merging catalogs gives their overlay. Its namespaces are those of all catalogs, each one once,
in the order of first appearance. The value of a namespace is the last one given for it if that is
no object, and otherwise an object made of the objects given for it after its last other value, with
their keys in the order of first appearance and the last record of each key. -/
theorem mergeAll_eq_overlay (h : ∀ c ∈ cs, c.WellFormed) :
    mergeAll cs = overlay cs ∧
      (mergeAll cs).names = (cs.flatMap names).eraseDups ∧
      (mergeAll cs).names.Nodup ∧
      (∀ name, name ∈ (mergeAll cs).names ↔ ∃ c ∈ cs, name ∈ c.names) ∧
      ∀ name v, (name, v) ∈ (mergeAll cs).namespaces → ComesTo (valuesOf cs name) v := by
  have hnames := names_mergeAll h
  have hn : (mergeAll cs).names.Nodup := hnames ▸ nodup_eraseDups _
  refine ⟨mergeAll_eq_tabulate h, hnames, hn, fun name => ?_, fun name v hv => comesTo_of_joined? ?_⟩
  · rw [hnames, List.mem_eraseDups, List.mem_flatMap]
  · rw [← get?_mergeAll h, Fields.get?_eq_some_iff hn]
    exact hv

/-- Catalogs in which one namespace is an object throughout and one is not. -/
def layers : List Catalog :=
  [⟨[("PED", .object [("0x1", .null), ("0x2", .bool true)]), ("CAM", .object [("0x3", .null)])]⟩,
   ⟨[("CFX", .null), ("CAM", .string "none")]⟩,
   ⟨[("CAM", .object [("0x4", .null)]), ("PED", .object [("0x5", .null), ("0x1", .bool false)])]⟩]

/-- The first records of one namespace are gone with the value that came between. -/
theorem mergeAll_eq_overlay_layers :
    (∀ c ∈ layers, c.WellFormed) ∧
      mergeAll layers =
        ⟨[("PED", .object [("0x1", .bool false), ("0x2", .bool true), ("0x5", .null)]),
          ("CAM", .object [("0x4", .null)]), ("CFX", .null)]⟩ := by
  have h : ∀ c ∈ layers, c.WellFormed := by
    simp [layers, Catalog.WellFormed, Value.WellFormed, Value.WellFormedFields, Fields.keys]
  exact ⟨h, (mergeAll_eq_overlay h).1.trans rfl⟩

end Catalog

end NativeStubs
