import NativeStubs.Proofs.Record
import NativeStubs.Proofs.Renaming

/-! # The grammar of records

A value describes a native if it is an object with the right kind of value under each name that
the record of a native may have. What is said here looks fields up by their names only, so the
order of the fields and those with other names cannot matter.
-/

namespace NativeStubs

open Json

namespace Json.Value

variable {v : Value} {fields fields' : Fields Value}

theorem wellFormedItems_iff (items : List Value) :
    WellFormedItems items ↔ ∀ item ∈ items, item.WellFormed := by
  induction items with
  | nil => simp [WellFormedItems]
  | cons item rest ih => simp [WellFormedItems, ih]

theorem wellFormedFields_iff (fields : Fields Value) :
    WellFormedFields fields ↔ ∀ field ∈ fields, field.2.WellFormed := by
  induction fields with
  | nil => simp [WellFormedFields]
  | cons field rest ih => simp [WellFormedFields, ih]

theorem wellFormed_array_iff (items : List Value) :
    (array items).WellFormed ↔ ∀ item ∈ items, item.WellFormed :=
  wellFormedItems_iff items

theorem wellFormed_object_iff (fields : Fields Value) :
    (object fields).WellFormed ↔ fields.keys.Nodup ∧ ∀ field ∈ fields, field.2.WellFormed :=
  and_congr_right fun _ => wellFormedFields_iff fields

theorem WellFormed.of_get? (h : (object fields).WellFormed) {k : String}
    (hk : fields.get? k = some v) : v.WellFormed :=
  ((wellFormed_object_iff fields).mp h).2 _ (Fields.mem_of_get?_eq_some hk)

theorem WellFormed.perm (h : (object fields).WellFormed) (hp : fields'.Perm fields) :
    (object fields').WellFormed := by
  obtain ⟨hn, hv⟩ := (wellFormed_object_iff fields).mp h
  refine (wellFormed_object_iff fields').mpr ⟨?_, fun field hf => hv field (hp.mem_iff.mp hf)⟩
  exact (Fields.keys_perm hp).nodup_iff.mpr hn

end Json.Value

namespace Grammar

/-- A text that may be left out or be null. -/
inductive OptionalText : Option Value → Option String → Prop
  | absent : OptionalText none none
  | null : OptionalText (some .null) none
  | text (s : String) : OptionalText (some (.string s)) (some s)

/-- A text that may be left out but not be null. -/
inductive TextOrEmpty : Option Value → String → Prop
  | absent : TextOrEmpty none ""
  | text (s : String) : TextOrEmpty (some (.string s)) s

/-- A list of texts that may be left out. -/
inductive Texts : Option Value → List String → Prop
  | absent : Texts none []
  | array (l : List String) : Texts (some (.array (l.map .string))) l

/-- A parameter in either form: an object that has its name and its type, or the two in a row. -/
inductive IsParam : Value → Param → Prop
  | object {fields : Fields Value} {p : Param} (hname : fields.get? "name" = some (.string p.name))
    (htype : fields.get? "type" = some (.string p.type)) : IsParam (.object fields) p
  | row (p : Param) : IsParam (.array [.string p.name, .string p.type]) p

/-- A list of parameters, which must be there. -/
inductive Params : Option Value → List Param → Prop
  | array {items : List Value} {params : List Param} (h : List.Forall₂ IsParam items params) :
    Params (some (.array items)) params

/-- The native that fields describe. The description and the result may stand under their older
names, unless the record has the names of today. -/
structure Describes (fields : Fields Value) (n : Native) : Prop where
  name : OptionalText (fields.get? "name") n.name
  params : Params (fields.get? "params") n.params
  results : OptionalText ((fields.get? "results").or (fields.get? "return_type")) n.results
  description :
    OptionalText ((fields.get? "description").or (fields.get? "comment")) n.description
  hash : TextOrEmpty (fields.get? "hash") n.hash
  oneNamespace : fields.get? "namespace" = none ∨ fields.get? "ns" = none
  namespaceName : OptionalText ((fields.get? "namespace").or (fields.get? "ns")) n.namespaceName
  apiset : OptionalText (fields.get? "apiset") n.apiset
  aliases : Texts (fields.get? "aliases") n.aliases
  oldNames : Texts (fields.get? "old_names") n.oldNames

/-- The names under which the record of a native is read. -/
def fieldNames : List String :=
  ["name", "params", "results", "return_type", "description", "comment", "hash", "namespace", "ns",
   "apiset", "aliases", "old_names"]

theorem Describes.congr {fields fields' : Fields Value} {n : Native} (h : Describes fields n)
    (heq : ∀ k ∈ fieldNames, fields'.get? k = fields.get? k) : Describes fields' n := by
  simp only [fieldNames, List.forall_mem_cons, List.not_mem_nil, false_implies, implies_true,
    and_true] at heq
  obtain ⟨h₁, h₂, h₃, h₄, h₅, h₆, h₇, h₈, h₉, h₁₀, h₁₁, h₁₂⟩ := heq
  exact {
    name := h₁ ▸ h.name
    params := h₂ ▸ h.params
    results := h₃ ▸ h₄ ▸ h.results
    description := h₅ ▸ h₆ ▸ h.description
    hash := h₇ ▸ h.hash
    oneNamespace := h₈ ▸ h₉ ▸ h.oneNamespace
    namespaceName := h₈ ▸ h₉ ▸ h.namespaceName
    apiset := h₁₀ ▸ h.apiset
    aliases := h₁₁ ▸ h.aliases
    oldNames := h₁₂ ▸ h.oldNames }

/-- Fields that some native may be read from. -/
structure IsRecord (fields : Fields Value) : Prop where
  name : ∃ s, OptionalText (fields.get? "name") s
  params : ∃ l, Params (fields.get? "params") l
  results : ∃ s, OptionalText ((fields.get? "results").or (fields.get? "return_type")) s
  description : ∃ s, OptionalText ((fields.get? "description").or (fields.get? "comment")) s
  hash : ∃ s, TextOrEmpty (fields.get? "hash") s
  oneNamespace : fields.get? "namespace" = none ∨ fields.get? "ns" = none
  namespaceName : ∃ s, OptionalText ((fields.get? "namespace").or (fields.get? "ns")) s
  apiset : ∃ s, OptionalText (fields.get? "apiset") s
  aliases : ∃ l, Texts (fields.get? "aliases") l
  oldNames : ∃ l, Texts (fields.get? "old_names") l

theorem isRecord_iff {fields : Fields Value} : IsRecord fields ↔ ∃ n, Describes fields n := by
  constructor
  · rintro ⟨⟨_, h₁⟩, ⟨_, h₂⟩, ⟨_, h₃⟩, ⟨_, h₄⟩, ⟨_, h₅⟩, h₆, ⟨_, h₇⟩, ⟨_, h₈⟩, ⟨_, h₉⟩, ⟨_, h₁₀⟩⟩
    exact ⟨⟨_, _, _, _, _, _, _, _, _⟩, h₁, h₂, h₃, h₄, h₅, h₆, h₇, h₈, h₉, h₁₀⟩
  · rintro ⟨n, h⟩
    exact ⟨⟨_, h.name⟩, ⟨_, h.params⟩, ⟨_, h.results⟩, ⟨_, h.description⟩, ⟨_, h.hash⟩,
      h.oneNamespace, ⟨_, h.namespaceName⟩, ⟨_, h.apiset⟩, ⟨_, h.aliases⟩, ⟨_, h.oldNames⟩⟩

theorem readString_eq_ok_iff {v : Value} {s : String} : readString v = .ok s ↔ v = .string s := by
  cases v <;> simp [readString]

theorem optionalText_iff {field : Option Value} {s : Option String} :
    OptionalText field s ↔ ∃ slot, readField readOptional field = .ok slot ∧ slot.join = s := by
  constructor
  · intro h
    cases h with
    | absent => exact ⟨none, rfl, rfl⟩
    | null => exact ⟨some none, rfl, rfl⟩
    | text s => exact ⟨some (some s), rfl, rfl⟩
  · rintro ⟨slot, h, rfl⟩
    cases field with
    | none =>
      cases h
      exact .absent
    | some v =>
      cases v <;> cases h
      · exact .null
      · exact .text _

theorem textOrEmpty_iff {field : Option Value} {s : String} :
    TextOrEmpty field s ↔ ∃ slot, readField readString field = .ok slot ∧ slot.getD "" = s := by
  constructor
  · intro h
    cases h with
    | absent => exact ⟨none, rfl, rfl⟩
    | text => exact ⟨some s, rfl, rfl⟩
  · rintro ⟨slot, h, rfl⟩
    cases field with
    | none =>
      cases h
      exact .absent
    | some v =>
      obtain ⟨s, hs, rfl⟩ := map_eq_ok_iff.mp h
      obtain rfl := readString_eq_ok_iff.mp hs
      exact .text s

theorem mapM_readString_eq_ok_iff {items : List Value} {l : List String} :
    items.mapM readString = .ok l ↔ items = l.map .string := by
  simp only [mapM_eq_ok_iff, readString_eq_ok_iff]
  rw [← List.forall₂_map_right_iff (f := Value.string), List.forall₂_eq_eq_eq]

theorem texts_iff {field : Option Value} {l : List String} :
    Texts field l ↔
      ∃ slot, readField (readItems readString) field = .ok slot ∧ slot.getD [] = l := by
  simp only [readField_items_eq_ok_iff, mapM_readString_eq_ok_iff]
  constructor
  · intro h
    cases h with
    | absent => exact ⟨none, Or.inl ⟨rfl, rfl⟩, rfl⟩
    | array l => exact ⟨some l, Or.inr ⟨_, l, rfl, rfl, rfl⟩, rfl⟩
  · rintro ⟨slot, ⟨rfl, rfl⟩ | ⟨_, l, rfl, rfl, rfl⟩, rfl⟩
    · exact .absent
    · exact .array l

theorem ofItems_eq_ok_iff {items : List Value} {p : Param} :
    Param.ofItems items = .ok p ↔ items = [.string p.name, .string p.type] := by
  constructor
  · intro h
    rcases items with _ | ⟨name, _ | ⟨type, more⟩⟩
    · cases h
    · obtain ⟨_, _, h⟩ := bind_eq_ok_iff.mp h
      cases h
    · obtain ⟨s, hs, h⟩ := bind_eq_ok_iff.mp h
      obtain ⟨t, ht, h⟩ := bind_eq_ok_iff.mp h
      obtain rfl := readString_eq_ok_iff.mp hs
      obtain rfl := readString_eq_ok_iff.mp ht
      cases more with
      | nil =>
        cases h
        rfl
      | cons => cases h
  · rintro rfl
    rfl

theorem foldlM_paramField_eq_ok_iff (fields : Fields Value) (draft draft' : Param.Draft) :
    fields.foldlM (fun draft (key, v) => draft.field key v) draft = .ok draft' ↔
      readSlot "name" [] readString draft.name fields = .ok draft'.name ∧
        readSlot "type" [] readString draft.type fields = .ok draft'.type := by
  induction fields generalizing draft with
  | nil =>
    obtain ⟨name, type⟩ := draft
    obtain ⟨name', type'⟩ := draft'
    simp [readSlot, pure, Except.pure]
  | cons field rest ih =>
    obtain ⟨key, v⟩ := field
    rw [List.foldlM_cons, bind_eq_ok_iff, readSlot_cons_eq_ok_iff, readSlot_cons_eq_ok_iff]
    constructor
    · rintro ⟨d, hd, hrest⟩
      simp only [Param.Draft.field, bind_eq_ok_iff] at hd
      obtain ⟨name, hname, type, htype, hd⟩ := hd
      cases hd
      obtain ⟨hname', htype'⟩ := (ih _).mp hrest
      exact ⟨⟨name, hname, hname'⟩, type, htype, htype'⟩
    · rintro ⟨⟨name, hname, hname'⟩, type, htype, htype'⟩
      refine ⟨⟨name, type⟩, ?_, (ih _).mpr ⟨hname', htype'⟩⟩
      simp only [Param.Draft.field, bind_eq_ok_iff]
      exact ⟨name, hname, type, htype, rfl⟩

theorem required_eq_ok_iff {α : Type} {name : String} {slot : Option α} {x : α} :
    required name slot = .ok x ↔ slot = some x := by
  cases slot <;> simp [required]

/-- A field that must be there and hold a text. -/
theorem readField_string_eq_some_iff {field : Option Value} {s : String} :
    readField readString field = .ok (some s) ↔ field = some (.string s) := by
  cases field with
  | none => simp [readField]
  | some v => simp [readField, map_eq_ok_iff, readString_eq_ok_iff]

theorem paramOfFields_eq_ok_iff {fields : Fields Value} (hn : fields.keys.Nodup) {p : Param} :
    Param.ofFields fields = .ok p ↔
      fields.get? "name" = some (.string p.name) ∧ fields.get? "type" = some (.string p.type) := by
  rw [← readField_string_eq_some_iff, ← readField_string_eq_some_iff, ← readSlot_eq_ok_iff hn,
    ← readSlot_eq_ok_iff hn, Param.ofFields]
  simp only [bind_eq_ok_iff, foldlM_paramField_eq_ok_iff, required_eq_ok_iff]
  constructor
  · rintro ⟨draft, ⟨hname, htype⟩, name, hname', type, htype', hp⟩
    cases hp
    exact ⟨hname' ▸ hname, htype' ▸ htype⟩
  · rintro ⟨hname, htype⟩
    exact ⟨⟨some p.name, some p.type⟩, ⟨hname, htype⟩, p.name, rfl, p.type, rfl, rfl⟩

theorem paramOfValue_eq_ok_iff {v : Value} (hv : v.WellFormed) {p : Param} :
    Param.ofValue v = .ok p ↔ IsParam v p := by
  constructor
  · intro h
    cases v with
    | object fields =>
      obtain ⟨hname, htype⟩ := (paramOfFields_eq_ok_iff hv.1).mp h
      exact .object hname htype
    | array items =>
      obtain rfl := ofItems_eq_ok_iff.mp h
      exact .row p
    | _ => cases h
  · intro h
    cases h with
    | object hname htype => exact (paramOfFields_eq_ok_iff hv.1).mpr ⟨hname, htype⟩
    | row => exact ofItems_eq_ok_iff.mpr rfl

theorem mapM_param_eq_ok_iff {items : List Value} (hv : ∀ v ∈ items, v.WellFormed)
    {params : List Param} :
    items.mapM Param.ofValue = .ok params ↔ List.Forall₂ IsParam items params := by
  rw [mapM_eq_ok_iff]
  constructor
  · intro h
    exact ((List.forall₂_and_left _ _).mpr ⟨hv, h⟩).imp fun v p ⟨hv, h⟩ =>
      (paramOfValue_eq_ok_iff hv).mp h
  · intro h
    exact ((List.forall₂_and_left _ _).mpr ⟨hv, h⟩).imp fun v p ⟨hv, h⟩ =>
      (paramOfValue_eq_ok_iff hv).mpr h

theorem params_iff {field : Option Value} (hv : ∀ v ∈ field, v.WellFormed) {params : List Param} :
    Params field params ↔ readField (readItems Param.ofValue) field = .ok (some params) := by
  rw [readField_items_eq_ok_iff]
  constructor
  · intro h
    cases h with
    | array h =>
      have hitems := (Value.wellFormed_array_iff _).mp (hv _ rfl)
      exact Or.inr ⟨_, _, rfl, (mapM_param_eq_ok_iff hitems).mpr h, rfl⟩
  · rintro (⟨_, h⟩ | ⟨items, l, rfl, hl, h⟩)
    · cases h
    · obtain rfl := Option.some.inj h
      have hitems := (Value.wellFormed_array_iff _).mp (hv _ rfl)
      exact .array ((mapM_param_eq_ok_iff hitems).mp hl)

theorem native_eq_ok_iff {draft : Native.Draft} {n : Native} :
    draft.native = .ok n ↔
      draft.params = some n.params ∧ draft.name.join = n.name ∧ draft.results.join = n.results ∧
        draft.description.join = n.description ∧ draft.hash.getD "" = n.hash ∧
        draft.namespaceName.join = n.namespaceName ∧ draft.apiset.join = n.apiset ∧
        draft.aliases.getD [] = n.aliases ∧ draft.oldNames.getD [] = n.oldNames := by
  simp only [Native.Draft.native, bind_eq_ok_iff, required_eq_ok_iff]
  constructor
  · rintro ⟨params, hparams, hn⟩
    cases hn
    exact ⟨hparams, rfl, rfl, rfl, rfl, rfl, rfl, rfl, rfl⟩
  · obtain ⟨⟩ := n
    rintro ⟨hparams, rfl, rfl, rfl, rfl, rfl, rfl, rfl, rfl⟩
    exact ⟨_, hparams, rfl⟩

theorem exists_filled_iff {fields : Fields Value} (hv : (Value.object fields).WellFormed)
    {n : Native} :
    (∃ draft : Native.Draft, draft.Filled fields.modernize ∧ draft.native = .ok n) ↔
      Describes fields n := by
  have hn : fields.keys.Nodup := hv.1
  have same (k : String) (hk : k ∉ ["comment", "description", "return_type", "results"]) :=
    Fields.get?_modernize_of_notMem (α := Value) hn hk
  have hparams : ∀ v ∈ fields.get? "params", v.WellFormed := fun v h => hv.of_get? h
  constructor
  · rintro ⟨draft, hf, hd⟩
    obtain ⟨h₁, h₂, h₃, h₄, h₅, h₆, h₇, h₈, h₉⟩ := native_eq_ok_iff.mp hd
    exact {
      name := optionalText_iff.mpr ⟨_, same "name" (by decide) ▸ hf.name, h₂⟩
      params := (params_iff hparams).mpr (h₁ ▸ same "params" (by decide) ▸ hf.params)
      results := optionalText_iff.mpr ⟨_, Fields.get?_modernize_results hn ▸ hf.results, h₃⟩
      description :=
        optionalText_iff.mpr ⟨_, Fields.get?_modernize_description hn ▸ hf.description, h₄⟩
      hash := textOrEmpty_iff.mpr ⟨_, same "hash" (by decide) ▸ hf.hash, h₅⟩
      oneNamespace := same "namespace" (by decide) ▸ same "ns" (by decide) ▸ hf.oneNamespace
      namespaceName := optionalText_iff.mpr
        ⟨_, same "namespace" (by decide) ▸ same "ns" (by decide) ▸ hf.namespaceName, h₆⟩
      apiset := optionalText_iff.mpr ⟨_, same "apiset" (by decide) ▸ hf.apiset, h₇⟩
      aliases := texts_iff.mpr ⟨_, same "aliases" (by decide) ▸ hf.aliases, h₈⟩
      oldNames := texts_iff.mpr ⟨_, same "old_names" (by decide) ▸ hf.oldNames, h₉⟩ }
  · intro h
    obtain ⟨name, hname, hname'⟩ := optionalText_iff.mp h.name
    obtain ⟨results, hresults, hresults'⟩ := optionalText_iff.mp h.results
    obtain ⟨description, hdescription, hdescription'⟩ := optionalText_iff.mp h.description
    obtain ⟨hash, hhash, hhash'⟩ := textOrEmpty_iff.mp h.hash
    obtain ⟨namespaceName, hnamespace, hnamespace'⟩ := optionalText_iff.mp h.namespaceName
    obtain ⟨apiset, hapiset, hapiset'⟩ := optionalText_iff.mp h.apiset
    obtain ⟨aliases, haliases, haliases'⟩ := texts_iff.mp h.aliases
    obtain ⟨oldNames, holdNames, holdNames'⟩ := texts_iff.mp h.oldNames
    refine ⟨⟨name, some n.params, results, description, hash, namespaceName, apiset, aliases,
      oldNames⟩, ?_, native_eq_ok_iff.mpr ⟨rfl, hname', hresults', hdescription', hhash',
        hnamespace', hapiset', haliases', holdNames'⟩⟩
    exact {
      name := by rw [same "name" (by decide)]; exact hname
      params := by rw [same "params" (by decide)]; exact (params_iff hparams).mp h.params
      results := by rw [Fields.get?_modernize_results hn]; exact hresults
      description := by rw [Fields.get?_modernize_description hn]; exact hdescription
      hash := by rw [same "hash" (by decide)]; exact hhash
      oneNamespace := by
        rw [same "namespace" (by decide), same "ns" (by decide)]
        exact h.oneNamespace
      namespaceName := by
        rw [same "namespace" (by decide), same "ns" (by decide)]
        exact hnamespace
      apiset := by rw [same "apiset" (by decide)]; exact hapiset
      aliases := by rw [same "aliases" (by decide)]; exact haliases
      oldNames := by rw [same "old_names" (by decide)]; exact holdNames }

end Grammar

namespace Native

open Grammar

variable {v : Value} {n : Native}

theorem ofRecord_object_eq_ok_iff {fields : Fields Value}
    (hv : (Value.object fields).WellFormed) :
    ofRecord (.object fields) = .ok n ↔ Describes fields n := by
  rw [ofRecord_eq_ok_iff hv.1, exists_filled_iff hv]

theorem ofRecord_eq_ok_iff_describes (hv : v.WellFormed) :
    ofRecord v = .ok n ↔ ∃ fields, v = .object fields ∧ Describes fields n := by
  cases v with
  | object fields =>
    rw [ofRecord_object_eq_ok_iff hv]
    constructor
    · exact fun h => ⟨fields, rfl, h⟩
    · rintro ⟨fields', he, h⟩
      exact Value.object.inj he ▸ h
  | _ => simp [ofRecord]

/-- A value is read as a native exactly if it is an object of the grammar, and then as the native
that its fields describe. Neither the order of the fields nor a field of another name matters. -/
theorem ofRecord_reads_grammar (hv : v.WellFormed) :
    ((∃ n, ofRecord v = .ok n) ↔ ∃ fields, v = .object fields ∧ IsRecord fields) ∧
      (∀ n, ofRecord v = .ok n ↔ ∃ fields, v = .object fields ∧ Describes fields n) ∧
      ∀ fields : Fields Value, v = .object fields →
        (∀ fields' : Fields Value, fields'.Perm fields →
          ∀ n, ofRecord (.object fields') = .ok n ↔ ofRecord v = .ok n) ∧
        ∀ fields' : Fields Value, (Value.object fields').WellFormed →
          (∀ k ∈ fieldNames, fields'.get? k = fields.get? k) →
          ∀ n, ofRecord (.object fields') = .ok n ↔ ofRecord v = .ok n := by
  have hsame : ∀ fields : Fields Value, v = .object fields → ∀ fields' : Fields Value,
      (Value.object fields').WellFormed → (∀ k ∈ fieldNames, fields'.get? k = fields.get? k) →
      ∀ n, ofRecord (.object fields') = .ok n ↔ ofRecord v = .ok n := by
    rintro fields rfl fields' hv' heq n
    rw [ofRecord_object_eq_ok_iff hv, ofRecord_object_eq_ok_iff hv']
    exact ⟨fun h => h.congr fun k hk => (heq k hk).symm, fun h => h.congr heq⟩
  refine ⟨?_, fun n => ofRecord_eq_ok_iff_describes hv, fun fields he => ⟨?_, hsame fields he⟩⟩
  · simp only [ofRecord_eq_ok_iff_describes hv, isRecord_iff]
    rw [exists_comm]
    simp only [exists_and_left]
  · subst he
    intro fields' hp
    exact hsame fields rfl fields' (hv.perm hp) fun k _ =>
      (Fields.get?_perm hp.symm hv.1 k).symm

/-- A record with older names, fields that mean nothing and both forms of parameters. -/
def mixedRecord : Fields Value :=
  [("return_type", .string "BOOL"), ("jhash", .bool true), ("comment", .null),
    ("params", .array [.array [.string "cam", .string "Cam"],
      .object [("type", .string "float*"), ("unit", .null), ("name", .string "height")]]),
    ("ns", .string "CAM"), ("old_names", .array [.string "_CAM_HEIGHT"])]

def mixedNative : Native :=
  { params := [⟨"cam", "Cam"⟩, ⟨"height", "float*"⟩]
    results := some "BOOL"
    namespaceName := some "CAM"
    oldNames := ["_CAM_HEIGHT"] }

theorem ofRecord_reads_grammar_mixed :
    (Value.object mixedRecord).WellFormed ∧
      ofRecord (.object mixedRecord) = .ok mixedNative ∧
      ofRecord (.object mixedRecord.reverse) = .ok mixedNative := by
  have hv : (Value.object mixedRecord).WellFormed := by
    simp [mixedRecord, Value.WellFormed, Value.WellFormedItems, Value.WellFormedFields, Fields.keys]
  obtain ⟨-, hdescribes, hinfluence⟩ := ofRecord_reads_grammar hv
  have h : ofRecord (.object mixedRecord) = .ok mixedNative := by
    refine (hdescribes _).mpr ⟨_, rfl, ?_⟩
    exact {
      name := .absent
      params := .array (.cons (.row ⟨"cam", "Cam"⟩) (.cons (.object rfl rfl) .nil))
      results := .text "BOOL"
      description := .null
      hash := .absent
      oneNamespace := Or.inl rfl
      namespaceName := .text "CAM"
      apiset := .absent
      aliases := .absent
      oldNames := .array ["_CAM_HEIGHT"] }
  exact ⟨hv, h, ((hinfluence _ rfl).1 _ (List.reverse_perm _) _).mpr h⟩

end Native

end NativeStubs
