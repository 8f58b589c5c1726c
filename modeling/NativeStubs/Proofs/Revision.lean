import NativeStubs.Generator
import NativeStubs.Proofs.Record
import NativeStubs.Proofs.Renaming

/-! # Records of any age

A record that has been brought up to the spelling of today declares the same text under the same
identifier, in whatever order its fields come then.
-/

namespace NativeStubs

open Json

def Json.Value.items : Value → List Value
  | .array items => items
  | _ => []

namespace Fields

variable {fields fields' : Fields Value} {k : String}

theorem get?_filter_ne (fields : Fields Value) (dropped k : String) :
    get? (fields.filter (·.1 ≠ dropped)) k = if k = dropped then none else fields.get? k := by
  induction fields with
  | nil => simp
  | cons field rest ih =>
    obtain ⟨key, v⟩ := field
    by_cases hd : key = dropped
    · by_cases hk : k = dropped
      · simpa [hd, hk] using ih
      · simpa [hd, hk, get?_cons, Ne.symm hk] using ih
    · by_cases hk : key = k
      · subst hk
        simp [hd, get?_cons]
      · simpa [hd, hk, get?_cons] using ih

/-- The record with its old names after its aliases, in one field. -/
def joinNames (fields : Fields Value) : Fields Value :=
  match fields.get? "old_names" with
  | none => fields
  | some old =>
    insert (fields.filter (·.1 ≠ "old_names")) "aliases"
      (.array (((fields.get? "aliases").elim [] Value.items) ++ old.items))

/-- The record in the spelling of today. -/
def currentSpelling (fields : Fields Value) : Fields Value :=
  (((fields.respell "comment" "description").respell "return_type" "results").respell
    "ns" "namespace").joinNames

theorem nodup_keys_joinNames (hn : fields.keys.Nodup) : fields.joinNames.keys.Nodup := by
  unfold joinNames
  split
  · exact hn
  · exact nodup_keys_insert (hn.sublist (List.filter_sublist.map _)) _ _

theorem nodup_keys_currentSpelling (hn : fields.keys.Nodup) :
    fields.currentSpelling.keys.Nodup := by
  unfold currentSpelling
  exact nodup_keys_joinNames (nodup_keys_respell (nodup_keys_respell
    (nodup_keys_respell hn _ _) _ _) _ _)

theorem get?_joinNames (hold : k ≠ "old_names") (haliases : k ≠ "aliases") :
    fields.joinNames.get? k = fields.get? k := by
  unfold joinNames
  split
  · rfl
  · rw [get?_insert, get?_filter_ne, if_neg (Ne.symm haliases), if_neg hold]

theorem get?_joinNames_oldNames (fields : Fields Value) :
    fields.joinNames.get? "old_names" = none := by
  unfold joinNames
  split
  · assumption
  · rw [get?_insert, get?_filter_ne]
    simp

theorem get?_joinNames_aliases (fields : Fields Value) :
    fields.joinNames.get? "aliases" =
      (fields.get? "old_names").elim (fields.get? "aliases") fun old =>
        some (.array ((fields.get? "aliases").elim [] Value.items ++ old.items)) := by
  unfold joinNames
  split <;> simp [*, get?_insert]

theorem respell_of_settled {α : Type} {fields : Fields α} {old new : String}
    (h : Settled old new fields) : fields.respell old new = fields := by
  unfold respell
  split_ifs with hnew
  · rfl
  · exact map_renamed_of_notMem (get?_eq_none_iff.mp (h.resolve_left hnew))

theorem get?_currentSpelling (hn : fields.keys.Nodup) (hold : k ≠ "old_names")
    (haliases : k ≠ "aliases") :
    fields.currentSpelling.get? k =
      if (fields.modernize.get? "namespace").isSome then fields.modernize.get? k
      else if k = "namespace" then fields.modernize.get? "ns"
      else if k = "ns" then none
      else fields.modernize.get? k := by
  simp only [currentSpelling, get?_modernize hn, get?_joinNames hold haliases]
  exact get?_respell _ (by decide) k

theorem get?_currentSpelling_of_notMem (hn : fields.keys.Nodup)
    (hk : k ∉ ["old_names", "aliases", "namespace", "ns"]) :
    fields.currentSpelling.get? k = fields.modernize.get? k := by
  simp only [List.mem_cons, List.not_mem_nil, or_false, not_or] at hk
  obtain ⟨hold, haliases, hnamespace, hns⟩ := hk
  rw [get?_currentSpelling hn hold haliases, if_neg hnamespace, if_neg hns, ite_self]

theorem get?_currentSpelling_namespace (hn : fields.keys.Nodup) :
    fields.currentSpelling.get? "namespace" =
      (fields.modernize.get? "namespace").or (fields.modernize.get? "ns") := by
  rw [get?_currentSpelling hn (by decide) (by decide), if_pos rfl]
  cases fields.modernize.get? "namespace" <;> rfl

theorem get?_currentSpelling_ns (hn : fields.keys.Nodup)
    (h : fields.modernize.get? "namespace" = none ∨ fields.modernize.get? "ns" = none) :
    fields.currentSpelling.get? "ns" = none := by
  rw [get?_currentSpelling hn (by decide) (by decide)]
  rcases h with h | h <;> simp [h]

theorem get?_currentSpelling_oldNames (fields : Fields Value) :
    fields.currentSpelling.get? "old_names" = none :=
  get?_joinNames_oldNames _

theorem get?_currentSpelling_aliases (hn : fields.keys.Nodup) :
    fields.currentSpelling.get? "aliases" =
      (fields.modernize.get? "old_names").elim (fields.modernize.get? "aliases") fun old =>
        some (.array ((fields.modernize.get? "aliases").elim [] Value.items ++ old.items)) := by
  have h (k : String) (hns : k ≠ "ns") (hnamespace : k ≠ "namespace") :
      (((fields.respell "comment" "description").respell "return_type" "results").respell
        "ns" "namespace").get? k = fields.modernize.get? k := by
    rw [get?_modernize hn]
    exact get?_respell_of_ne _ (by decide) hns hnamespace
  rw [currentSpelling, get?_joinNames_aliases, h "aliases" (by decide) (by decide),
    h "old_names" (by decide) (by decide)]

/-- A record in the spelling of today has no field that is renamed. -/
theorem modernize_perm_currentSpelling (hn : fields.keys.Nodup)
    (hperm : fields'.Perm fields.currentSpelling) :
    fields'.modernize.Perm fields.currentSpelling := by
  have hcurrent := nodup_keys_currentSpelling hn
  have hn' : fields'.keys.Nodup := (keys_perm hperm).nodup_iff.mpr hcurrent
  have hc : fields.currentSpelling.respell "comment" "description" = fields.currentSpelling := by
    apply respell_of_settled
    rw [Settled, get?_currentSpelling_of_notMem hn (by decide),
      get?_currentSpelling_of_notMem hn (by decide)]
    exact settled_modernize hn (by decide)
  have hr : fields.currentSpelling.respell "return_type" "results" = fields.currentSpelling := by
    apply respell_of_settled
    rw [Settled, get?_currentSpelling_of_notMem hn (by decide),
      get?_currentSpelling_of_notMem hn (by decide)]
    exact settled_modernize hn (by decide)
  have hp := respell_perm (respell_perm hperm hn' "comment" "description")
    (nodup_keys_respell hn' _ _) "return_type" "results"
  rw [hc, hr] at hp
  exact (modernize_perm hn').trans hp

end Fields

namespace Native

variable {fields fields' : Fields Value} {draft : Draft} {n : Native}

def Draft.joinNames (draft : Draft) : Draft :=
  { draft with
    aliases := draft.oldNames.elim draft.aliases fun old => some (draft.aliases.getD [] ++ old)
    oldNames := none }

def joinNames (n : Native) : Native := { n with aliases := n.allAliases, oldNames := [] }

@[simp] theorem allAliases_joinNames (n : Native) : n.joinNames.allAliases = n.allAliases :=
  List.append_nil _

theorem Draft.native_joinNames (h : draft.native = .ok n) :
    draft.joinNames.native = .ok n.joinNames := by
  obtain ⟨params, hparams, hnative⟩ := bind_eq_ok_iff.mp h
  cases hnative
  refine bind_eq_ok_iff.mpr ⟨params, hparams, ?_⟩
  cases hold : draft.oldNames <;>
    simp [Native.joinNames, Draft.joinNames, allAliases, hold, pure, Except.pure]

theorem Draft.Filled.congr (h : draft.Filled fields) (heq : ∀ k, fields.get? k = fields'.get? k) :
    draft.Filled fields' where
  name := heq "name" ▸ h.name
  params := heq "params" ▸ h.params
  results := heq "results" ▸ h.results
  description := heq "description" ▸ h.description
  hash := heq "hash" ▸ h.hash
  oneNamespace := heq "namespace" ▸ heq "ns" ▸ h.oneNamespace
  namespaceName := heq "namespace" ▸ heq "ns" ▸ h.namespaceName
  apiset := heq "apiset" ▸ h.apiset
  aliases := heq "aliases" ▸ h.aliases
  oldNames := heq "old_names" ▸ h.oldNames

/-- Two lists that are read in one field give the one after the other. -/
theorem readField_joinNames {α : Type} {item : Value → Except RecordFault α}
    {aliases oldNames : Option Value} {slot slot' : Option (List α)}
    (ha : readField (readItems item) aliases = .ok slot)
    (ho : readField (readItems item) oldNames = .ok slot') :
    readField (readItems item)
        (oldNames.elim aliases fun old =>
          some (.array (aliases.elim [] Value.items ++ old.items))) =
      .ok (slot'.elim slot fun old => some (slot.getD [] ++ old)) := by
  rcases readField_items_eq_ok_iff.mp ho with ⟨rfl, rfl⟩ | ⟨items', l', rfl, hl', rfl⟩
  · exact ha
  · apply readField_items_eq_ok_iff.mpr
    rcases readField_items_eq_ok_iff.mp ha with ⟨rfl, rfl⟩ | ⟨items, l, rfl, hl, rfl⟩
    · exact Or.inr ⟨items', l', rfl, hl', rfl⟩
    · refine Or.inr ⟨items ++ items', l ++ l', rfl, ?_, rfl⟩
      simp [List.mapM_append, hl, hl', bind, Except.bind, pure, Except.pure]

theorem Draft.Filled.joinNames (hn : fields.keys.Nodup) (h : draft.Filled fields.modernize) :
    draft.joinNames.Filled fields.currentSpelling := by
  have same (k : String) (hk : k ∉ ["old_names", "aliases", "namespace", "ns"]) :
      fields.modernize.get? k = fields.currentSpelling.get? k :=
    (Fields.get?_currentSpelling_of_notMem hn hk).symm
  have hns := Fields.get?_currentSpelling_ns hn h.oneNamespace
  exact {
    name := same "name" (by decide) ▸ h.name
    params := same "params" (by decide) ▸ h.params
    results := same "results" (by decide) ▸ h.results
    description := same "description" (by decide) ▸ h.description
    hash := same "hash" (by decide) ▸ h.hash
    oneNamespace := Or.inr hns
    namespaceName := by
      rw [hns, Option.or_none, Fields.get?_currentSpelling_namespace hn]
      exact h.namespaceName
    apiset := same "apiset" (by decide) ▸ h.apiset
    aliases := by
      rw [Fields.get?_currentSpelling_aliases hn]
      exact readField_joinNames h.aliases h.oldNames
    oldNames := by
      rw [Fields.get?_currentSpelling_oldNames]
      rfl }

/-- A record in the spelling of today, in any order, describes the same native but for the field
that its old names are in. -/
theorem ofRecord_currentSpelling (hn : fields.keys.Nodup)
    (hperm : fields'.Perm fields.currentSpelling) (h : ofRecord (.object fields) = .ok n) :
    ofRecord (.object fields') = .ok n.joinNames := by
  have hn' : fields'.keys.Nodup :=
    (Fields.keys_perm hperm).nodup_iff.mpr (Fields.nodup_keys_currentSpelling hn)
  obtain ⟨draft, hfilled, hnative⟩ := (ofRecord_eq_ok_iff hn n).mp h
  have hsame := Fields.get?_perm (Fields.modernize_perm_currentSpelling hn hperm)
    (Fields.nodup_keys_modernize hn')
  refine (ofRecord_eq_ok_iff hn' n.joinNames).mpr ⟨draft.joinNames, ?_, ?_⟩
  · exact (hfilled.joinNames hn).congr fun k => (hsame k).symm
  · exact Draft.native_joinNames hnative

end Native

namespace Generator

variable (g : Generator) {fields fields' : Fields Value} {name key : String}

theorem declaration_joinNames (name identifier : String) (n : Native) :
    g.declaration name identifier n.joinNames = g.declaration name identifier n := by
  unfold declaration
  rw [Native.allAliases_joinNames]
  rfl

/-- A record that is brought up to the spelling of today, with its fields in any order, is
declared as it was. -/
theorem declare_currentSpelling (hkeys : fields.keys.Nodup)
    (hperm : fields'.Perm fields.currentSpelling) {declared : String × String}
    (h : g.declare name key (.object fields) = .ok declared) :
    g.declare name key (.object fields') = .ok declared := by
  unfold declare at h ⊢
  cases hn : Native.ofRecord (.object fields) with
  | error fault =>
    rw [hn] at h
    cases h
  | ok n =>
    rw [hn] at h
    rw [Native.ofRecord_currentSpelling hkeys hperm hn]
    have hidentifier : identifier? n.joinNames key = identifier? n key := rfl
    simpa only [hidentifier, declaration_joinNames] using h

/-- A record with every field that has an older spelling. -/
def olderRecord : Fields Value :=
  [("comment", .string "Gets a value."), ("ns", .string "CAM"), ("name", .string "GET_CAM"),
    ("return_type", .string "int"), ("old_names", .array [.string "_CAM_VALUE"]),
    ("params", .array [.array [.string "cam", .string "Cam*"]]),
    ("aliases", .array [.string "GET_CAMERA"])]

theorem declare_currentSpelling_reverse :
    ∃ declared,
      (Config.generator {}).declare "PED" "0x1" (.object olderRecord) = .ok declared ∧
      (Config.generator {}).declare "PED" "0x1" (.object olderRecord.currentSpelling.reverse) =
        .ok declared := by
  have hkeys : olderRecord.keys.Nodup := by decide
  have haccepted :
      ((Config.generator {}).declare "PED" "0x1" (.object olderRecord)).isOk := by decide +kernel
  cases hdeclared : (Config.generator {}).declare "PED" "0x1" (.object olderRecord) with
  | error error =>
    rw [hdeclared] at haccepted
    cases haccepted
  | ok declared =>
    exact ⟨declared, rfl, declare_currentSpelling _ hkeys (List.reverse_perm _) hdeclared⟩

end Generator

end NativeStubs
