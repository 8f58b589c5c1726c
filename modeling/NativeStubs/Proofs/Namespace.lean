import Mathlib.Data.List.Induction
import Mathlib.Data.String.Basic
import NativeStubs.Generator

/-! # The output of a namespace

No record can stop its namespace. The declarations come out in increasing order of identifiers,
and of the records with one identifier the last one is declared; the others are skipped in the
order of the catalog, each with its own error.
-/

namespace NativeStubs

open Json

namespace Declarations

variable {ds : Declarations} {identifier text : String} {d : String × String}

/-- The identifiers increase from each declaration to the next, so none comes twice. -/
def Increasing (ds : Declarations) : Prop := ds.Pairwise fun d d' => d.1 < d'.1

theorem mem_insert (h : ds.Increasing) :
    d ∈ ds.insert identifier text ↔ d = (identifier, text) ∨ d ∈ ds ∧ d.1 ≠ identifier := by
  induction ds with
  | nil => simp [insert]
  | cons first rest ih =>
    obtain ⟨i, t⟩ := first
    obtain ⟨hlt, hrest⟩ := List.pairwise_cons.mp h
    simp only [insert]
    split_ifs with hi he
    · -- The new declaration comes first, so no other one has its identifier.
      have hne : ∀ d' ∈ (i, t) :: rest, d'.1 ≠ identifier := by
        intro d' hd'
        rcases List.mem_cons.mp hd' with rfl | hd'
        · exact hi.ne'
        · exact (hi.trans (hlt d' hd')).ne'
      rw [List.mem_cons]
      exact or_congr_right ⟨fun hd => ⟨hd, hne d hd⟩, And.left⟩
    · subst he
      have hne : ∀ d' ∈ rest, d'.1 ≠ i := fun d' hd' => (hlt d' hd').ne'
      rw [List.mem_cons, List.mem_cons]
      constructor
      · rintro (rfl | hd)
        · exact Or.inl rfl
        · exact Or.inr ⟨Or.inr hd, hne d hd⟩
      · rintro (rfl | ⟨rfl | hd, hn⟩)
        · exact Or.inl rfl
        · exact absurd rfl hn
        · exact Or.inr hd
    · rw [List.mem_cons, ih hrest, List.mem_cons]
      constructor
      · rintro (rfl | rfl | ⟨hd, hn⟩)
        · exact Or.inr ⟨Or.inl rfl, he⟩
        · exact Or.inl rfl
        · exact Or.inr ⟨Or.inr hd, hn⟩
      · rintro (rfl | ⟨rfl | hd, hn⟩)
        · exact Or.inr (Or.inl rfl)
        · exact Or.inl rfl
        · exact Or.inr (Or.inr ⟨hd, hn⟩)

theorem increasing_insert (h : ds.Increasing) : (ds.insert identifier text).Increasing := by
  induction ds with
  | nil => simp [insert, Increasing]
  | cons first rest ih =>
    obtain ⟨i, t⟩ := first
    obtain ⟨hlt, hrest⟩ := List.pairwise_cons.mp h
    simp only [insert]
    split_ifs with hi he
    · refine List.pairwise_cons.mpr ⟨?_, h⟩
      intro d hd
      rcases List.mem_cons.mp hd with rfl | hd
      · exact hi
      · exact hi.trans (hlt d hd)
    · exact List.pairwise_cons.mpr ⟨hlt, hrest⟩
    · refine List.pairwise_cons.mpr ⟨?_, ih hrest⟩
      intro d hd
      rcases (mem_insert hrest).mp hd with rfl | ⟨hd, _⟩
      · exact lt_of_le_of_ne (not_lt.mp hi) he
      · exact hlt d hd

end Declarations

namespace Generator

variable (g : Generator) (name : String)

/-- The errors of a single record are of the kind that is skipped. -/
theorem isPerNative_of_declare {key : String} {record : Value} {error : Error}
    (h : g.declare name key record = .error error) : error.isPerNative = true := by
  unfold declare at h
  split at h
  · cases h; rfl
  · split at h
    · cases h; rfl
    · cases h

def addDeclaration (ds : Declarations) (field : String × Value) : Declarations :=
  match g.declare name field.1 field.2 with
  | .ok (identifier, text) => ds.insert identifier text
  | .error _ => ds

def declarations (records : Fields Value) : Declarations :=
  records.foldl (g.addDeclaration name) []

/-- What is noted of a record that cannot be declared. -/
def skip? (field : String × Value) : Option Skipped :=
  match g.declare name field.1 field.2 with
  | .ok _ => none
  | .error error => some ⟨name, field.1, error⟩

def output (records : Fields Value) : NamespaceOutput :=
  ⟨name, g.declarations name records, records.filterMap (g.skip? name)⟩

theorem addRecord_eq (o : NamespaceOutput) (field : String × Value) :
    g.addRecord name o field.1 field.2 =
      .ok { o with
        declarations := g.addDeclaration name o.declarations field
        skipped := o.skipped ++ (g.skip? name field).toList } := by
  cases h : g.declare name field.1 field.2 with
  | ok declared => simp [addRecord, addDeclaration, skip?, h]
  | error error =>
    simp [addRecord, addDeclaration, skip?, h, g.isPerNative_of_declare name h]

theorem addRecords_eq (o : NamespaceOutput) (records : Fields Value) :
    g.addRecords name o records =
      .ok { o with
        declarations := records.foldl (g.addDeclaration name) o.declarations
        skipped := o.skipped ++ records.filterMap (g.skip? name) } := by
  induction records generalizing o with
  | nil => simp [addRecords]
  | cons field rest ih =>
    change (g.addRecord name o field.1 field.2 >>= fun o => g.addRecords name o rest) = _
    rw [addRecord_eq]
    change g.addRecords name _ rest = _
    rw [ih]
    cases h : g.skip? name field <;> simp [h]

@[simp] theorem build_object (records : Fields Value) :
    g.build name (.object records) = .ok (g.output name records) := by
  simp [build, addRecords_eq, output, declarations]

theorem build_eq (v : Value) :
    g.build name v =
      match v.fields? with
      | some records => .ok (g.output name records)
      | none => .error (.malformedCatalog (.namespaceNotObject name)) := by
  cases v with
  | object records => exact g.build_object name records
  | _ => rfl

@[simp] theorem declarations_nil : g.declarations name [] = [] := rfl

theorem declarations_append_singleton (records : Fields Value) (field : String × Value) :
    g.declarations name (records ++ [field]) =
      g.addDeclaration name (g.declarations name records) field := by
  simp [declarations]

theorem increasing_declarations (records : Fields Value) :
    (g.declarations name records).Increasing := by
  induction records using List.reverseRecOn with
  | nil => exact List.Pairwise.nil
  | append_singleton records field ih =>
    rw [declarations_append_singleton, addDeclaration]
    split
    · exact Declarations.increasing_insert ih
    · exact ih

def identifierOf? (field : String × Value) : Option String :=
  (g.declare name field.1 field.2).toOption.map Prod.fst

theorem identifierOf?_eq_some_iff {field : String × Value} {identifier : String} :
    g.identifierOf? name field = some identifier ↔
      ∃ text, g.declare name field.1 field.2 = .ok (identifier, text) := by
  unfold identifierOf?
  cases h : g.declare name field.1 field.2 with
  | ok declared => simp [Except.toOption, Prod.ext_iff]
  | error error => simp [Except.toOption]

/-- The last of the records with this identifier is declared with this text. -/
def LastDeclared (records : Fields Value) (identifier text : String) : Prop :=
  ∃ before key record after, records = before ++ (key, record) :: after ∧
    g.declare name key record = .ok (identifier, text) ∧
    ∀ field ∈ after, g.identifierOf? name field ≠ some identifier

theorem mem_addDeclaration {ds : Declarations} (h : ds.Increasing) (field : String × Value)
    (d : String × String) :
    d ∈ g.addDeclaration name ds field ↔
      g.declare name field.1 field.2 = .ok d ∨ d ∈ ds ∧ g.identifierOf? name field ≠ some d.1 := by
  unfold addDeclaration identifierOf?
  cases hd : g.declare name field.1 field.2 with
  | ok declared =>
    simp only [Declarations.mem_insert h, Except.ok.injEq, Except.toOption, Option.map_some, ne_eq,
      Option.some.injEq]
    exact or_congr eq_comm (and_congr_right fun _ => not_congr eq_comm)
  | error error => simp [Except.toOption]

theorem lastDeclared_append_singleton (records : Fields Value) (field : String × Value)
    (identifier text : String) :
    g.LastDeclared name (records ++ [field]) identifier text ↔
      g.declare name field.1 field.2 = .ok (identifier, text) ∨
        g.LastDeclared name records identifier text ∧
          g.identifierOf? name field ≠ some identifier := by
  constructor
  · rintro ⟨before, key, record, after, hr, hd, hafter⟩
    rcases List.eq_nil_or_concat' after with rfl | ⟨after, last, rfl⟩
    · obtain ⟨-, hlast⟩ := List.append_inj' hr rfl
      obtain rfl : field = (key, record) := List.head_eq_of_cons_eq hlast
      exact Or.inl hd
    · rw [← List.cons_append, ← List.append_assoc] at hr
      obtain ⟨rfl, hlast⟩ := List.append_inj' hr rfl
      obtain rfl : field = last := List.head_eq_of_cons_eq hlast
      exact Or.inr ⟨⟨before, key, record, after, rfl, hd,
        fun f hf => hafter f (List.mem_append_left _ hf)⟩, hafter field (by simp)⟩
  · rintro (hd | ⟨⟨before, key, record, after, rfl, hd, hafter⟩, hne⟩)
    · exact ⟨records, field.1, field.2, [], rfl, hd, by simp⟩
    · refine ⟨before, key, record, after ++ [field], by simp, hd, ?_⟩
      intro f hf
      rcases List.mem_append.mp hf with hf | hf
      · exact hafter f hf
      · obtain rfl := List.mem_singleton.mp hf
        exact hne

theorem mem_declarations (records : Fields Value) (identifier text : String) :
    (identifier, text) ∈ g.declarations name records ↔
      g.LastDeclared name records identifier text := by
  induction records using List.reverseRecOn with
  | nil => simp [LastDeclared]
  | append_singleton records field ih =>
    rw [declarations_append_singleton, mem_addDeclaration _ _ (g.increasing_declarations name _),
      lastDeclared_append_singleton, ih]

theorem mem_identifiers (records : Fields Value) (identifier : String) :
    identifier ∈ (g.declarations name records).map Prod.fst ↔
      ∃ field ∈ records, g.identifierOf? name field = some identifier := by
  induction records using List.reverseRecOn with
  | nil => simp
  | append_singleton records field ih =>
    have hmem : identifier ∈ (g.declarations name (records ++ [field])).map Prod.fst ↔
        (∃ text, g.declare name field.1 field.2 = .ok (identifier, text)) ∨
          identifier ∈ (g.declarations name records).map Prod.fst ∧
            g.identifierOf? name field ≠ some identifier := by
      simp only [List.mem_map, Prod.exists, exists_eq_right, declarations_append_singleton,
        mem_addDeclaration _ _ (g.increasing_declarations name _), exists_or, exists_and_right]
    rw [hmem, ← identifierOf?_eq_some_iff, ih]
    simp only [List.mem_append, List.mem_singleton, or_and_right, exists_or, exists_eq_left]
    by_cases h : g.identifierOf? name field = some identifier <;> simp [h]

theorem nonempty?_eq_none_iff {s : String} : nonempty? s = none ↔ s = "" := by
  simp [nonempty?]

theorem identifier?_eq_none_iff {native : Native} {key : String} :
    identifier? native key = none ↔ (native.name = none ∨ native.name = some "") ∧ key = "" := by
  simp only [identifier?, Identifier.ofNames?, Option.map_eq_none_iff, Option.or_eq_none_iff,
    Option.bind_eq_none_iff, nonempty?_eq_none_iff]
  cases native.name <;> simp

/-- A record cannot be declared if it does not describe a native or if neither its name nor its
key gives an identifier. -/
theorem declare_eq_error_iff (key : String) (record : Value) (error : Error) :
    g.declare name key record = .error error ↔
      (∃ fault, Native.ofRecord record = .error fault ∧
        error = .malformedNative name key fault) ∨
      (∃ native, Native.ofRecord record = .ok native ∧
        (native.name = none ∨ native.name = some "") ∧ key = "" ∧
        error = .missingIdentifier name key) := by
  unfold declare
  cases h : Native.ofRecord record with
  | error fault => simp [eq_comm]
  | ok native =>
    cases hi : identifier? native key with
    | none =>
      obtain ⟨hname, rfl⟩ := identifier?_eq_none_iff.mp hi
      simp [hi, hname, eq_comm]
    | some identifier =>
      have hn : ¬ ((native.name = none ∨ native.name = some "") ∧ key = "") :=
        fun hn => Option.some_ne_none _ (hi.symm.trans (identifier?_eq_none_iff.mpr hn))
      simp only [hi, reduceCtorEq, false_and, exists_false, Except.ok.injEq, exists_eq_left',
        false_or, false_iff]
      exact fun ⟨hname, hkey, _⟩ => hn ⟨hname, hkey⟩

/-- An object always has an output. Its declarations are in increasing order, an identifier is
declared if some record has it, with the text of the last such record, and the records that
cannot be declared are skipped in order, each with its error. -/
theorem build_object_spec (records : Fields Value) :
    ∃ o, g.build name (.object records) = .ok o ∧ o.namespaceName = name ∧
      o.declarations.Increasing ∧
      (∀ identifier, identifier ∈ o.declarations.map Prod.fst ↔
        ∃ key record text, (key, record) ∈ records ∧
          g.declare name key record = .ok (identifier, text)) ∧
      (∀ identifier text, (identifier, text) ∈ o.declarations ↔
        g.LastDeclared name records identifier text) ∧
      o.skipped = records.filterMap (fun (key, record) =>
        match g.declare name key record with
        | .ok _ => none
        | .error error => some ⟨name, key, error⟩) ∧
      ∀ key record error, g.declare name key record = .error error ↔
        (∃ fault, Native.ofRecord record = .error fault ∧
          error = .malformedNative name key fault) ∨
        (∃ native, Native.ofRecord record = .ok native ∧
          (native.name = none ∨ native.name = some "") ∧ key = "" ∧
          error = .missingIdentifier name key) := by
  refine ⟨g.output name records, g.build_object name records, rfl,
    g.increasing_declarations name records, ?_, g.mem_declarations name records, rfl,
    g.declare_eq_error_iff name⟩
  intro identifier
  simp only [output, mem_identifiers, identifierOf?_eq_some_iff, Prod.exists]
  constructor
  · rintro ⟨key, record, hmem, text, hd⟩
    exact ⟨key, record, text, hmem, hd⟩
  · rintro ⟨key, record, text, hmem, hd⟩
    exact ⟨key, record, hmem, text, hd⟩

end Generator

end NativeStubs
