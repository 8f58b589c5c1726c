import NativeStubs.Native.Reader
import NativeStubs.Proofs.Except
import NativeStubs.Proofs.Fields

/-! # What a record says

Each slot of a draft depends on its own field of the record alone. So a record with distinct keys
is read the same in whatever order its fields come.
-/

namespace NativeStubs

open Json

variable {α : Type} {fields : Fields Value} {name synonym : String} {synonyms : List String}
  {read : Value → Except RecordFault α} {slot slot' : Option α}

/-- Reads a slot alone, with its own fields of a record. -/
def readSlot (name : String) (synonyms : List String) (read : Value → Except RecordFault α)
    (slot : Option α) (fields : Fields Value) : Except RecordFault (Option α) :=
  fields.foldlM (fun slot (key, v) => fill name synonyms read key v slot) slot

theorem readSlot_cons_eq_ok_iff {key : String} {v : Value} {rest : Fields Value} :
    readSlot name synonyms read slot ((key, v) :: rest) = .ok slot' ↔
      ∃ s, fill name synonyms read key v slot = .ok s ∧
        readSlot name synonyms read s rest = .ok slot' := by
  rw [readSlot, List.foldlM_cons, bind_eq_ok_iff]
  rfl

/-- The fields that a slot takes up. -/
def own (name : String) (synonyms : List String) (fields : Fields Value) : Fields Value :=
  fields.filter fun field => field.1 = name ∨ field.1 ∈ synonyms

@[simp] theorem own_nil : own name synonyms [] = [] := rfl

theorem own_cons (field : String × Value) (rest : Fields Value) :
    own name synonyms (field :: rest) =
      if field.1 = name ∨ field.1 ∈ synonyms then field :: own name synonyms rest
      else own name synonyms rest := by
  simp [own, List.filter_cons]

/-- A slot that is filled stays as it is, and finds no other field of its own. -/
theorem readSlot_some_eq_ok_iff {x : α} :
    readSlot name synonyms read (some x) fields = .ok slot' ↔
      own name synonyms fields = [] ∧ slot' = some x := by
  induction fields with
  | nil => simp [readSlot, pure, Except.pure, eq_comm]
  | cons field rest ih =>
    obtain ⟨key, v⟩ := field
    rw [readSlot_cons_eq_ok_iff, own_cons, fill]
    split_ifs with h
    · simp [setOnce]
    · simpa using ih

/-- A slot is read from one field of its own, if there is any. -/
theorem readSlot_none_eq_ok_iff :
    readSlot name synonyms read none fields = .ok slot' ↔
      own name synonyms fields = [] ∧ slot' = none ∨
        ∃ field x, own name synonyms fields = [field] ∧ read field.2 = .ok x ∧
          slot' = some x := by
  induction fields with
  | nil => simp [readSlot, pure, Except.pure, eq_comm]
  | cons field rest ih =>
    obtain ⟨key, v⟩ := field
    rw [readSlot_cons_eq_ok_iff, own_cons, fill]
    split_ifs with h
    · simp only [setOnce, Option.isSome_none, Bool.false_eq_true, if_false, map_eq_ok_iff]
      constructor
      · rintro ⟨s, ⟨x, hx, rfl⟩, hs⟩
        obtain ⟨hown, rfl⟩ := readSlot_some_eq_ok_iff.mp hs
        exact Or.inr ⟨(key, v), x, by rw [hown], hx, rfl⟩
      · rintro (⟨hown, _⟩ | ⟨field, x, hown, hx, rfl⟩)
        · cases hown
        · obtain ⟨rfl, hrest⟩ := List.cons.inj hown
          exact ⟨some x, ⟨x, hx, rfl⟩, readSlot_some_eq_ok_iff.mpr ⟨hrest, rfl⟩⟩
    · simpa using ih

def readField (read : Value → Except RecordFault α) : Option Value → Except RecordFault (Option α)
  | none => .ok none
  | some v => (read v).map some

theorem readItems_eq_ok_iff {item : Value → Except RecordFault α} {v : Value} {l : List α} :
    readItems item v = .ok l ↔ ∃ items, v = .array items ∧ items.mapM item = .ok l := by
  cases v <;> simp [readItems]

theorem readField_items_eq_ok_iff {item : Value → Except RecordFault α} {field : Option Value}
    {slot : Option (List α)} :
    readField (readItems item) field = .ok slot ↔
      field = none ∧ slot = none ∨
        ∃ items l, field = some (.array items) ∧ items.mapM item = .ok l ∧ slot = some l := by
  cases field with
  | none => simp [readField, eq_comm]
  | some v =>
    simp only [readField, map_eq_ok_iff, readItems_eq_ok_iff]
    constructor
    · rintro ⟨l, ⟨items, rfl, hl⟩, rfl⟩
      exact Or.inr ⟨items, l, rfl, hl, rfl⟩
    · rintro (⟨hv, _⟩ | ⟨items, l, hv, hl, rfl⟩)
      · cases hv
      · exact ⟨l, ⟨items, Option.some.inj hv, hl⟩, rfl⟩

theorem readSlot_eq_ok_iff_of_own {found : Option (String × Value)}
    (h : own name synonyms fields = found.toList) :
    readSlot name synonyms read none fields = .ok slot ↔
      readField read (found.map Prod.snd) = .ok slot := by
  rw [readSlot_none_eq_ok_iff, h]
  cases found with
  | none => simp [readField, eq_comm]
  | some field => simp [readField, map_eq_ok_iff, eq_comm (a := slot)]

theorem own_eq (hn : fields.keys.Nodup) (name : String) :
    own name [] fields = (fields.get? name).toList.map (name, ·) := by
  induction fields with
  | nil => rfl
  | cons field rest ih =>
    obtain ⟨key, v⟩ := field
    obtain ⟨hkey, hrest⟩ := List.nodup_cons.mp hn
    rw [own_cons, Fields.get?_cons, ih hrest]
    by_cases h : key = name
    · subst h
      simp [Fields.get?_eq_none_iff.mpr hkey]
    · simp [h]

theorem own_perm (hne : name ≠ synonym) (fields : Fields Value) :
    (own name [synonym] fields).Perm (own name [] fields ++ own synonym [] fields) := by
  induction fields with
  | nil => exact List.Perm.refl _
  | cons field rest ih =>
    rw [own_cons, own_cons, own_cons]
    by_cases h : field.1 = name
    · have h' : field.1 ≠ synonym := fun he => hne (h.symm.trans he)
      simpa [h, hne] using ih
    · by_cases h' : field.1 = synonym
      · simpa [h, h', Ne.symm hne] using (ih.cons field).trans List.perm_middle.symm
      · simpa [h, h'] using ih

theorem readSlot_eq_ok_iff (hn : fields.keys.Nodup) :
    readSlot name [] read none fields = .ok slot ↔
      readField read (fields.get? name) = .ok slot := by
  have hown : own name [] fields = ((fields.get? name).map (name, ·)).toList := by
    rw [own_eq hn]
    cases fields.get? name <;> rfl
  rw [readSlot_eq_ok_iff_of_own hown]
  simp [Function.comp_def]

/-- A slot with two names is read from the field of either name, and not from both. -/
theorem readSlot_synonym_eq_ok_iff (hn : fields.keys.Nodup) (hne : name ≠ synonym) :
    readSlot name [synonym] read none fields = .ok slot ↔
      (fields.get? name = none ∨ fields.get? synonym = none) ∧
        readField read ((fields.get? name).or (fields.get? synonym)) = .ok slot := by
  have hp := own_perm hne fields
  rw [own_eq hn, own_eq hn] at hp
  cases h : fields.get? name with
  | none =>
    have hown : own name [synonym] fields =
        ((fields.get? synonym).map (synonym, ·)).toList := by
      rw [h] at hp
      cases h' : fields.get? synonym with
      | none => simpa [h'] using hp
      | some v => simpa [h'] using hp
    rw [readSlot_eq_ok_iff_of_own hown]
    simp [Function.comp_def]
  | some v =>
    cases h' : fields.get? synonym with
    | none =>
      have hown : own name [synonym] fields = (some (name, v)).toList := by
        simpa [h, h'] using hp
      rw [readSlot_eq_ok_iff_of_own hown]
      simp
    | some v' =>
      -- With both names present a slot would be filled twice.
      have hlength : (own name [synonym] fields).length = 2 := by
        simpa [h, h'] using hp.length_eq
      rw [readSlot_none_eq_ok_iff]
      simp only [reduceCtorEq, or_self, false_and, iff_false]
      rintro (⟨hown, _⟩ | ⟨field, x, hown, _⟩)
      · simp [hown] at hlength
      · simp [hown] at hlength

namespace Native

/-- The fields of a record with distinct keys, read into a draft. -/
structure Draft.Filled (fields : Fields Value) (draft : Draft) : Prop where
  name : readField readOptional (fields.get? "name") = .ok draft.name
  params : readField (readItems Param.ofValue) (fields.get? "params") = .ok draft.params
  results : readField readOptional (fields.get? "results") = .ok draft.results
  description : readField readOptional (fields.get? "description") = .ok draft.description
  hash : readField readString (fields.get? "hash") = .ok draft.hash
  oneNamespace : fields.get? "namespace" = none ∨ fields.get? "ns" = none
  namespaceName : readField readOptional ((fields.get? "namespace").or (fields.get? "ns")) =
    .ok draft.namespaceName
  apiset : readField readOptional (fields.get? "apiset") = .ok draft.apiset
  aliases : readField (readItems readString) (fields.get? "aliases") = .ok draft.aliases
  oldNames : readField (readItems readString) (fields.get? "old_names") = .ok draft.oldNames

/-- Every slot is filled from a draft on, without regard to the other slots. -/
structure Draft.Extends (draft : Draft) (fields : Fields Value) (draft' : Draft) : Prop where
  name : readSlot "name" [] readOptional draft.name fields = .ok draft'.name
  params : readSlot "params" [] (readItems Param.ofValue) draft.params fields = .ok draft'.params
  results : readSlot "results" [] readOptional draft.results fields = .ok draft'.results
  description :
    readSlot "description" [] readOptional draft.description fields = .ok draft'.description
  hash : readSlot "hash" [] readString draft.hash fields = .ok draft'.hash
  namespaceName :
    readSlot "namespace" ["ns"] readOptional draft.namespaceName fields = .ok draft'.namespaceName
  apiset : readSlot "apiset" [] readOptional draft.apiset fields = .ok draft'.apiset
  aliases : readSlot "aliases" [] (readItems readString) draft.aliases fields = .ok draft'.aliases
  oldNames :
    readSlot "old_names" [] (readItems readString) draft.oldNames fields = .ok draft'.oldNames

theorem foldlM_field_eq_ok_iff (fields : Fields Value) (draft draft' : Draft) :
    fields.foldlM (fun draft (key, v) => draft.field key v) draft = .ok draft' ↔
      draft.Extends fields draft' := by
  induction fields generalizing draft with
  | nil =>
    constructor
    · intro h
      cases h
      exact ⟨rfl, rfl, rfl, rfl, rfl, rfl, rfl, rfl, rfl⟩
    · rintro ⟨h₁, h₂, h₃, h₄, h₅, h₆, h₇, h₈, h₉⟩
      obtain ⟨⟩ := draft'
      cases h₁; cases h₂; cases h₃; cases h₄; cases h₅; cases h₆; cases h₇; cases h₈; cases h₉
      rfl
  | cons field rest ih =>
    obtain ⟨key, v⟩ := field
    rw [List.foldlM_cons, bind_eq_ok_iff]
    constructor
    · rintro ⟨d, hd, hrest⟩
      have he := (ih d).mp hrest
      simp only [Draft.field, bind_eq_ok_iff] at hd
      obtain ⟨_, h₁, _, h₂, _, h₃, _, h₄, _, h₅, _, h₆, _, h₇, _, h₈, _, h₉, hd⟩ := hd
      cases hd
      exact ⟨readSlot_cons_eq_ok_iff.mpr ⟨_, h₁, he.name⟩,
        readSlot_cons_eq_ok_iff.mpr ⟨_, h₂, he.params⟩,
        readSlot_cons_eq_ok_iff.mpr ⟨_, h₃, he.results⟩,
        readSlot_cons_eq_ok_iff.mpr ⟨_, h₄, he.description⟩,
        readSlot_cons_eq_ok_iff.mpr ⟨_, h₅, he.hash⟩,
        readSlot_cons_eq_ok_iff.mpr ⟨_, h₆, he.namespaceName⟩,
        readSlot_cons_eq_ok_iff.mpr ⟨_, h₇, he.apiset⟩,
        readSlot_cons_eq_ok_iff.mpr ⟨_, h₈, he.aliases⟩,
        readSlot_cons_eq_ok_iff.mpr ⟨_, h₉, he.oldNames⟩⟩
    · intro he
      obtain ⟨s₁, h₁, h₁'⟩ := readSlot_cons_eq_ok_iff.mp he.name
      obtain ⟨s₂, h₂, h₂'⟩ := readSlot_cons_eq_ok_iff.mp he.params
      obtain ⟨s₃, h₃, h₃'⟩ := readSlot_cons_eq_ok_iff.mp he.results
      obtain ⟨s₄, h₄, h₄'⟩ := readSlot_cons_eq_ok_iff.mp he.description
      obtain ⟨s₅, h₅, h₅'⟩ := readSlot_cons_eq_ok_iff.mp he.hash
      obtain ⟨s₆, h₆, h₆'⟩ := readSlot_cons_eq_ok_iff.mp he.namespaceName
      obtain ⟨s₇, h₇, h₇'⟩ := readSlot_cons_eq_ok_iff.mp he.apiset
      obtain ⟨s₈, h₈, h₈'⟩ := readSlot_cons_eq_ok_iff.mp he.aliases
      obtain ⟨s₉, h₉, h₉'⟩ := readSlot_cons_eq_ok_iff.mp he.oldNames
      refine ⟨⟨s₁, s₂, s₃, s₄, s₅, s₆, s₇, s₈, s₉⟩, ?_,
        (ih _).mpr ⟨h₁', h₂', h₃', h₄', h₅', h₆', h₇', h₈', h₉'⟩⟩
      simp only [Draft.field, bind_eq_ok_iff]
      exact ⟨s₁, h₁, s₂, h₂, s₃, h₃, s₄, h₄, s₅, h₅, s₆, h₆, s₇, h₇, s₈, h₈, s₉, h₉, rfl⟩

theorem extends_empty_iff {fields : Fields Value} (hn : fields.keys.Nodup) (draft : Draft) :
    Draft.Extends {} fields draft ↔ draft.Filled fields := by
  have hns : "namespace" ≠ "ns" := by decide
  constructor
  · intro h
    have hname := (readSlot_synonym_eq_ok_iff hn hns).mp h.namespaceName
    exact ⟨(readSlot_eq_ok_iff hn).mp h.name, (readSlot_eq_ok_iff hn).mp h.params,
      (readSlot_eq_ok_iff hn).mp h.results, (readSlot_eq_ok_iff hn).mp h.description,
      (readSlot_eq_ok_iff hn).mp h.hash, hname.1, hname.2,
      (readSlot_eq_ok_iff hn).mp h.apiset, (readSlot_eq_ok_iff hn).mp h.aliases,
      (readSlot_eq_ok_iff hn).mp h.oldNames⟩
  · intro h
    exact ⟨(readSlot_eq_ok_iff hn).mpr h.name, (readSlot_eq_ok_iff hn).mpr h.params,
      (readSlot_eq_ok_iff hn).mpr h.results, (readSlot_eq_ok_iff hn).mpr h.description,
      (readSlot_eq_ok_iff hn).mpr h.hash,
      (readSlot_synonym_eq_ok_iff hn hns).mpr ⟨h.oneNamespace, h.namespaceName⟩,
      (readSlot_eq_ok_iff hn).mpr h.apiset, (readSlot_eq_ok_iff hn).mpr h.aliases,
      (readSlot_eq_ok_iff hn).mpr h.oldNames⟩

theorem ofFields_eq_ok_iff {fields : Fields Value} (hn : fields.keys.Nodup) (n : Native) :
    ofFields fields = .ok n ↔ ∃ draft : Draft, draft.Filled fields ∧ draft.native = .ok n := by
  rw [ofFields, bind_eq_ok_iff]
  simp only [foldlM_field_eq_ok_iff, extends_empty_iff hn]

theorem ofRecord_eq_ok_iff {fields : Fields Value} (hn : fields.keys.Nodup) (n : Native) :
    ofRecord (.object fields) = .ok n ↔
      ∃ draft : Draft, draft.Filled fields.modernize ∧ draft.native = .ok n :=
  ofFields_eq_ok_iff (Fields.nodup_keys_modernize hn) n

end Native

end NativeStubs
