import NativeStubs.Proofs.PointerSpelling
import NativeStubs.Proofs.TypeCase

/-! # Entity handles and tables

Letter case tells handles from tables: a token with `Object` in it names a handle, and a token that
is `object` in any other case of its letters names a table. Respelling handles keeps the two apart.
It leaves no `Object`, and the underscore that it puts in stays when a token is stripped, so a
declaration shows a table for the tokens of tables and for no others.
-/

namespace NativeStubs

open Text Pointer

namespace Pointer

variable {base token : String} {c : Char}

/-- Whether a token has the name of the entity handle in it. -/
def HasHandle (token : String) : Prop := "Object".toList <:+: token.toList

instance (token : String) : Decidable (HasHandle token) := inferInstanceAs (Decidable (_ <:+: _))

theorem not_hasHandle_disambiguate (token : String) : ¬ HasHandle (disambiguate token) := by
  rw [HasHandle, toList_disambiguate]
  refine not_infix_replaceAll (by decide) ?_ ?_ token.toList
  · intro c hc
    obtain rfl := Option.some.inj hc
    decide
  · intro v hv hnil
    simp only [String.reduceToList, List.suffix_cons_iff, List.suffix_nil] at hv
    rcases hv with rfl | rfl | rfl | rfl | rfl | rfl | rfl <;> simp at hnil ⊢

theorem disambiguate_of_not_hasHandle (h : ¬ HasHandle token) : disambiguate token = token := by
  rw [disambiguate, replaceAll_of_not_infix h, String.ofList_toList]

/-- The underscore of `object_1` marks where a handle was. -/
theorem underscore_mem_disambiguate (h : HasHandle token) : '_' ∈ (disambiguate token).toList := by
  rw [toList_disambiguate]
  have hmark : "object_1".toList <:+: respell token.toList := infix_replaceAll (by decide) h
  exact hmark.subset (by decide)

theorem Spells.infix_base (h : Spells base token) : base.toList <:+: token.toList := by
  cases h with
  | bare blanks => exact ⟨[], blanks.toList ++ ['*'], by simp⟩
  | qualified gap blanks =>
    exact ⟨"const".toList ++ gap.toList, blanks.toList ++ ['*'], by simp⟩

/-- A spelling adds stars, blanks and the letters of `const` to its base. -/
theorem Spells.mem_base (h : Spells base token) (hc : c ∈ token.toList) (hstar : c ≠ '*')
    (hblank : isBlank c = false) (hconst : c ∉ "const".toList) : c ∈ base.toList := by
  have hnotBlank {blanks : String} (hall : allBlank blanks) : c ∉ blanks.toList := by
    intro hmem
    rw [List.all_eq_true.mp hall c hmem] at hblank
    cases hblank
  have hnotStar : c ∉ "*".toList := by simpa using hstar
  cases h with
  | bare blanks hblanks =>
    simpa only [String.toList_append, List.mem_append, hnotStar, hnotBlank hblanks,
      or_false] using hc
  | qualified gap blanks hgap _ hblanks =>
    simpa only [String.toList_append, List.mem_append, hnotStar, hconst, hnotBlank hgap,
      hnotBlank hblanks, false_or, or_false] using hc

theorem strip_eq_or_spells (token : String) : strip token = token ∨ Spells (strip token) token := by
  by_cases h : token.toList.getLast? = some '*'
  · exact Or.inr (spells_strip h)
  · exact Or.inl (strip_of_getLast?_ne h)

theorem HasHandle.of_strip (h : HasHandle (strip token)) : HasHandle token := by
  rcases strip_eq_or_spells token with hsame | hspells
  · rwa [hsame] at h
  · exact h.trans hspells.infix_base

/-- Stripping brings no handle back. -/
theorem not_hasHandle_strip (token : String) : ¬ HasHandle (strip (disambiguate token)) :=
  fun h => not_hasHandle_disambiguate token h.of_strip

theorem underscore_mem_strip (h : '_' ∈ token.toList) : '_' ∈ (strip token).toList := by
  rcases strip_eq_or_spells token with hsame | hspells
  · rwa [hsame]
  · exact hspells.mem_base h (by decide) (by decide) (by decide)

end Pointer

namespace TypeName

variable {base token : String}

/-- The type that a declaration shows for a type token of a record. -/
def shown (token : String) : TypeName := ofToken (strip (disambiguate token))

theorem ofToken_eq_table_iff (token : String) :
    ofToken token = table ↔ foldCase token = "object" := by
  rw [ofToken]
  constructor
  · intro h
    unfold ofLower at h
    split_ifs at h with hvector hstring hvoid hbool hobject
    exact hobject
  · intro h
    rw [h]
    decide +kernel

theorem isBase_of_foldCase_eq (h : foldCase base = "object") : IsBase base.toList := by
  have hchars : base.toList.map Char.toLower = "object".toList := by rw [← toList_foldCase, h]
  refine isBase_of_noBlank ?_ ?_
  · intro hnil
    rw [hnil] at hchars
    cases hchars
  · rw [← isBlank_comp_toLower, ← List.any_map, hchars]
    decide

/-- What is left of a token is `object` when the token is that word or spells a pointer to it. -/
theorem foldCase_strip_eq_object_iff (token : String) :
    foldCase (strip token) = "object" ↔
      ∃ base, foldCase base = "object" ∧ (token = base ∨ Spells base token) := by
  constructor
  · intro h
    exact ⟨strip token, h, (strip_eq_or_spells token).imp_left Eq.symm⟩
  · rintro ⟨base, hbase, rfl | hspells⟩
    · have hlast : token.toList.getLast? ≠ some '*' := by
        intro hstar
        have hlower := congrArg (·.toList.getLast?) hbase
        simp [toList_foldCase, hstar] at hlower
      rwa [strip_of_getLast?_ne hlast]
    · rwa [strip, pointee?_eq_base (isBase_of_foldCase_eq hbase) hspells, Option.getD_some]

theorem shown_eq_table_iff (token : String) :
    shown token = table ↔ ¬ HasHandle token ∧ foldCase (strip token) = "object" := by
  rw [shown, ofToken_eq_table_iff]
  by_cases h : HasHandle token
  · -- The word `object` has no underscore, and lower case keeps this one.
    have hmark := underscore_mem_strip (underscore_mem_disambiguate h)
    have hne : foldCase (strip (disambiguate token)) ≠ "object" := by
      intro hobject
      have hlower : '_'.toLower ∈ (foldCase (strip (disambiguate token))).toList := by
        rw [toList_foldCase]
        exact List.mem_map_of_mem hmark
      rw [hobject] at hlower
      exact absurd hlower (by decide)
    simp [h, hne]
  · rw [disambiguate_of_not_hasHandle h]
    simp [h]

end TypeName

open NativeStubs.TypeName

namespace Native

variable (n : Native)

/-- The result token of a native, if it has one that is not blank. -/
def resultToken? : Option String := n.results.filter fun token => !allBlank token

/-- The type that stands for an absent result does not show. -/
theorem value?_declaredResult :
    (shown n.declaredResult).value?.toList =
      (n.resultToken?.toList.map shown).filterMap value? := by
  have hvoid : (shown voidToken).value? = none := by decide +kernel
  unfold declaredResult resultToken?
  cases n.results with
  | none => simp [hvoid]
  | some token =>
    cases hblank : allBlank token with
    | true => simp [hblank, hvoid, Option.filter]
    | false => cases hvalue : (shown token).value? <;> simp [hblank, hvalue, Option.filter]

end Native

namespace Promotion

variable (exclusions : List String) (n : Native) (identifier : String)

theorem not_hasHandle_of_mem_returns :
    ∀ type ∈ (ofNative exclusions n identifier).returns, ¬ HasHandle type := by
  intro type htype
  rw [returns_ofNative, List.mem_append] at htype
  rcases htype with hresult | hpromoted
  · split_ifs at hresult with hvoid
    · cases hresult
    · obtain rfl := List.mem_singleton.mp hresult
      exact not_hasHandle_strip n.declaredResult
  · obtain ⟨p, -, rfl⟩ := List.mem_map.mp hpromoted
    exact not_hasHandle_strip p.type

theorem not_hasHandle_of_mem_params :
    ∀ p ∈ (ofNative exclusions n identifier).params, ¬ HasHandle p.type := by
  intro p hp
  rw [ofNative_params, (kept_eq_and_promoted_eq _ n.params).1] at hp
  obtain ⟨p', -, rfl⟩ := List.mem_map.mp hp
  exact not_hasHandle_strip p'.type

end Promotion

namespace Generator

variable (g : Generator) (identifier : String) (n : Native)

/-- The parameters that are kept show the types of their tokens. -/
theorem arguments_eq_shown :
    g.arguments identifier n =
      (n.params.filter (!Promotion.isPromoted (identifier ∈ g.exclusions) ·)).map fun p =>
        (g.style.reserved.escape p.name, shown p.type) := by
  rw [arguments, (Promotion.kept_eq_and_promoted_eq _ n.params).1, List.map_map]
  rfl

/-- The values returned have the types of the result token and of the promoted tokens. -/
theorem values_eq_shown :
    g.values identifier n =
      ((n.resultToken?.toList ++
        (n.params.filter (Promotion.isPromoted (identifier ∈ g.exclusions))).map Param.type).map
          shown).filter (· ≠ .void) := by
  have hresult : (ofToken (Promotion.declared n)).value?.toList =
      (n.resultToken?.toList.map shown).filterMap value? := n.value?_declaredResult
  rw [values, (Promotion.kept_eq_and_promoted_eq _ n.params).2, hresult, ← filterMap_value?,
    List.map_append, List.filterMap_append, List.map_map, List.map_map]
  rfl

/-- A declaration shows no handle as a table. Each argument and each value returned has the type
that its own token shows. That is `table` just for the tokens without `Object` that are `object`, in
any case of its letters, when they are stripped: those that are this word or spell a pointer to it.
No type that promotion leaves has `Object` in it. -/
theorem declare_shows_no_handle_as_table {name key identifier text : String} {record : Json.Value}
    (h : g.declare name key record = .ok (identifier, text)) :
    (∃ n, Native.ofRecord record = .ok n ∧
      text = (g.declaration name identifier n).header g.style ++
        Declaration.descriptionLines n.description ++
        Signature.lines identifier (g.arguments identifier n) (g.values identifier n) ++
        (Alias.block? identifier n.allAliases).getD "" ++ "\n" ∧
      g.arguments identifier n =
        ((n.params.filter (!Promotion.isPromoted (identifier ∈ g.exclusions) ·)).map fun p =>
          (g.style.reserved.escape p.name, shown p.type)) ∧
      g.values identifier n =
        ((n.resultToken?.toList ++
          (n.params.filter (Promotion.isPromoted (identifier ∈ g.exclusions))).map Param.type).map
            shown).filter (· ≠ .void) ∧
      ∀ token ∈ n.typeTokens, HasHandle token → shown token ≠ .table) ∧
    (∀ token, (shown token = .table ↔ ¬ HasHandle token ∧ foldCase (strip token) = "object") ∧
      (foldCase (strip token) = "object" ↔
        ∃ base, foldCase base = "object" ∧ (token = base ∨ Spells base token))) ∧
    ∀ exclusions n identifier,
      (∀ type ∈ (Promotion.ofNative exclusions n identifier).returns, ¬ HasHandle type) ∧
        ∀ p ∈ (Promotion.ofNative exclusions n identifier).params, ¬ HasHandle p.type := by
  obtain ⟨n, hn, -, htext⟩ := (g.declare_eq_ok_iff identifier).mp h
  refine ⟨⟨n, hn, htext.trans (g.text_declaration identifier n name),
    g.arguments_eq_shown identifier n, g.values_eq_shown identifier n, ?_⟩, ?_, ?_⟩
  · intro token _ hhandle htable
    exact ((shown_eq_table_iff token).mp htable).1 hhandle
  · exact fun token => ⟨shown_eq_table_iff token, foldCase_strip_eq_object_iff token⟩
  · exact fun exclusions n identifier =>
      ⟨Promotion.not_hasHandle_of_mem_returns exclusions n identifier,
        Promotion.not_hasHandle_of_mem_params exclusions n identifier⟩

/-- A record with handles and tables, some of them by pointer. -/
def handleRecord : Json.Value :=
  .object [("name", .string "GET_OBJECT"), ("results", .string "PhysObject*"),
    ("params", .array [.array [.string "data", .string "object"],
      .array [.string "owner", .string "Object"],
      .array [.string "rows", .string "const OBJECT *"],
      .array [.string "found", .string "const Object*"]])]

def handleNative : Native :=
  { name := some "GET_OBJECT"
    results := some "PhysObject*"
    params := [⟨"data", "object"⟩, ⟨"owner", "Object"⟩, ⟨"rows", "const OBJECT *"⟩,
      ⟨"found", "const Object*"⟩] }

theorem declare_shows_no_handle_as_table_pointers :
    ∃ text, (Config.generator {}).declare "NS" "0x1" handleRecord = .ok ("GetObject", text) ∧
      (Config.generator {}).arguments "GetObject" handleNative =
        [("data", .table), ("owner", .number)] ∧
      (Config.generator {}).values "GetObject" handleNative = [.any, .table, .number] ∧
      HasHandle "const Object*" ∧ shown "const Object*" ≠ .table := by
  have hn : Native.ofRecord handleRecord = .ok handleNative := rfl
  have hidentifier : identifier? handleNative "0x1" = some "GetObject" := by decide +kernel
  have hdeclared : (Config.generator {}).declare "NS" "0x1" handleRecord = .ok ("GetObject", _) :=
    ((Config.generator {}).declare_eq_ok_iff "GetObject").mpr ⟨handleNative, hn, hidentifier, rfl⟩
  obtain ⟨⟨n, hn', -, harguments, hvalues, hhandles⟩, -, -⟩ :=
    declare_shows_no_handle_as_table _ hdeclared
  obtain rfl : handleNative = n := Except.ok.inj (hn.symm.trans hn')
  have hhandle : HasHandle "const Object*" := by decide
  refine ⟨_, hdeclared, harguments.trans ?_, hvalues.trans ?_, hhandle, ?_⟩
  · decide +kernel
  · decide +kernel
  · exact hhandles _ (by decide) hhandle

end Generator

end NativeStubs
