import NativeStubs.Generator
import NativeStubs.Proofs.Record

/-! # What a declaration shows

A parameter of a native shows as an argument if it is kept and as a value returned if it is
promoted. The one exception is a promoted pointer to `void`: its value is dropped with the `void`
results, and nothing of the parameter is left.
-/

namespace NativeStubs

/-- A type of values: any but `void`. -/
def TypeName.value? (t : TypeName) : Option TypeName := if t = void then none else some t

theorem TypeName.filterMap_value? (types : List TypeName) :
    types.filterMap value? = types.filter (· ≠ void) := by
  induction types with
  | nil => rfl
  | cons t rest ih => by_cases h : t = void <;> simp [value?, h, ih]

namespace Promotion

variable (excluded : Bool) (params : List Param)

/-- Each parameter is kept or promoted. -/
theorem length_kept_add_length_promoted :
    (kept excluded params).length + (promoted excluded params).length = params.length := by
  induction params with
  | nil => rfl
  | cons p rest ih =>
    unfold kept promoted at ih ⊢
    cases h : place excluded p with
    | inl q =>
      simp only [List.filterMap_cons, h, Sum.getLeft?_inl, Sum.getRight?_inl, List.length_cons]
      omega
    | inr token =>
      simp only [List.filterMap_cons, h, Sum.getLeft?_inr, Sum.getRight?_inr, List.length_cons]
      omega

/-- A pointer to `void` that is promoted. -/
def isHidden (p : Param) : Bool :=
  match place excluded p with
  | .inl _ => false
  | .inr token => TypeName.ofToken token = .void

theorem length_promotedValues :
    (((promoted excluded params).map TypeName.ofToken).filterMap TypeName.value?).length +
        (params.filter (isHidden excluded)).length =
      (promoted excluded params).length := by
  induction params with
  | nil => rfl
  | cons p rest ih =>
    unfold promoted at ih ⊢
    cases h : place excluded p with
    | inl q => simpa [isHidden, h] using ih
    | inr token =>
      by_cases hv : TypeName.ofToken token = .void
      · simp [isHidden, h, hv, TypeName.value?] at ih ⊢
        omega
      · simp [isHidden, h, hv, TypeName.value?] at ih ⊢
        omega

/-- A `void` result that makes way for promoted ones would not have shown. -/
theorem filterMap_value?_returns (exclusions : List String) (n : Native) (identifier : String) :
    ((ofNative exclusions n identifier).returns.map TypeName.ofToken).filterMap TypeName.value? =
      (TypeName.ofToken (declared n)).value?.toList ++
        ((promoted (identifier ∈ exclusions) n.params).map TypeName.ofToken).filterMap
          TypeName.value? := by
  unfold ofNative
  dsimp only
  split_ifs with h
  · have hvoid : TypeName.ofToken (declared n) = .void := by
      rw [h.1]
      decide +kernel
    simp [hvoid, TypeName.value?]
  · cases hv : (TypeName.ofToken (declared n)).value? <;> simp [hv]

theorem ofNative_params (exclusions : List String) (n : Native) (identifier : String) :
    (ofNative exclusions n identifier).params = kept (identifier ∈ exclusions) n.params := by
  unfold ofNative
  dsimp only
  split_ifs <;> rfl

end Promotion

/-- The lines for arguments and for values returned, and the function line. -/
def Signature.lines (identifier : String) (arguments : List (String × TypeName))
    (values : List TypeName) : String :=
  String.join
      (arguments.map fun (name, type) => "---@param " ++ name ++ " " ++ type.text ++ "\n") ++
    (if values = [] then ""
      else "---@return " ++ String.intercalate ", " (values.map TypeName.text) ++ "\n") ++
    "function " ++ identifier ++ "(" ++ String.intercalate ", " (arguments.map Prod.fst) ++
    ") end" ++ "\n"

theorem Declaration.returnLine?_map_text (types : List TypeName) :
    returnLine? (types.map TypeName.text) =
      if types.filterMap TypeName.value? = [] then none
      else some ("---@return " ++
        String.intercalate ", " ((types.filterMap TypeName.value?).map TypeName.text)) := by
  have h : (types.map TypeName.text).filter (· ≠ TypeName.void.text) =
      (types.filterMap TypeName.value?).map TypeName.text := by
    rw [TypeName.filterMap_value?, List.filter_map]
    congr 1
    refine List.filter_congr fun t _ => ?_
    exact decide_eq_decide.mpr (not_congr ⟨TypeName.text_injective, fun h => h ▸ rfl⟩)
  rw [returnLine?, h]
  cases types.filterMap TypeName.value? <;> simp

namespace Generator

variable (g : Generator) (identifier : String) (n : Native)

/-- The arguments that a declaration shows: the parameters that are kept. -/
def arguments : List (String × TypeName) :=
  (Promotion.kept (identifier ∈ g.exclusions) n.params).map fun p =>
    (g.style.reserved.escape p.name, .ofToken p.type)

/-- The values that a declaration shows: the result and what promoted parameters point to. -/
def values : List TypeName :=
  (TypeName.ofToken (Promotion.declared n)).value?.toList ++
    ((Promotion.promoted (identifier ∈ g.exclusions) n.params).map TypeName.ofToken).filterMap
      TypeName.value?

def signature : Signature :=
  let promotion := Promotion.ofNative g.exclusions n identifier
  .ofTokens identifier promotion.returns promotion.params

theorem paramLines_signature :
    (g.signature identifier n).paramLines g.style.reserved =
      String.join ((g.arguments identifier n).map fun (name, type) =>
        "---@param " ++ name ++ " " ++ type.text ++ "\n") := by
  simp [signature, Signature.paramLines, Signature.ofTokens, Promotion.ofNative_params, arguments,
    Function.comp_def]

theorem functionLine_signature :
    (g.signature identifier n).functionLine g.style.reserved =
      "function " ++ identifier ++ "(" ++
        String.intercalate ", " ((g.arguments identifier n).map Prod.fst) ++ ") end" := by
  simp [signature, Signature.functionLine, Signature.ofTokens, Promotion.ofNative_params,
    arguments, Function.comp_def]

theorem filterMap_value?_signature :
    (g.signature identifier n).returns.filterMap TypeName.value? = g.values identifier n := by
  simp only [signature, Signature.ofTokens, Promotion.filterMap_value?_returns, values]

theorem declaration_eq (name : String) :
    g.declaration name identifier n =
      { namespaceName := n.namespaceName.getD name
        apiset := n.apiset
        hash := n.hash
        description := n.description
        paramLines := (g.signature identifier n).paramLines g.style.reserved
        returns := (g.signature identifier n).returns.map TypeName.text
        functionLine := (g.signature identifier n).functionLine g.style.reserved
        aliases := Alias.block? identifier n.allAliases } := rfl

theorem text_declaration (name : String) :
    (g.declaration name identifier n).text g.style =
      (g.declaration name identifier n).header g.style ++
        Declaration.descriptionLines n.description ++
        Signature.lines identifier (g.arguments identifier n) (g.values identifier n) ++
        (Alias.block? identifier n.allAliases).getD "" ++ "\n" := by
  rw [declaration_eq, Declaration.text]
  simp only [paramLines_signature, functionLine_signature, Declaration.returnLine?_map_text,
    filterMap_value?_signature]
  rw [Signature.lines]
  split_ifs <;> simp only [String.append_assoc]

/-- Every parameter is kept, or promoted with a value that shows, or hidden. -/
theorem length_arguments_add_length_values :
    (g.arguments identifier n).length + (g.values identifier n).length +
        (n.params.filter (Promotion.isHidden (identifier ∈ g.exclusions))).length =
      n.params.length + if TypeName.ofToken (Promotion.declared n) = .void then 0 else 1 := by
  have hkept := Promotion.length_kept_add_length_promoted (identifier ∈ g.exclusions) n.params
  have hpromoted := Promotion.length_promotedValues (identifier ∈ g.exclusions) n.params
  have hresult : (TypeName.ofToken (Promotion.declared n)).value?.toList.length =
      if TypeName.ofToken (Promotion.declared n) = .void then 0 else 1 := by
    unfold TypeName.value?
    split_ifs <;> rfl
  simp only [arguments, values, List.length_map, List.length_append, hresult]
  omega

theorem declare_eq_ok_iff {name key : String} {record : Json.Value} {text : String} :
    g.declare name key record = .ok (identifier, text) ↔
      ∃ n, Native.ofRecord record = .ok n ∧ identifier? n key = some identifier ∧
        text = (g.declaration name identifier n).text g.style := by
  unfold declare
  cases Native.ofRecord record with
  | error fault => simp
  | ok n =>
    cases h : identifier? n key with
    | none => simp [h]
    | some i =>
      simp only [Except.ok.injEq, Prod.mk.injEq, exists_eq_left', h, Option.some.injEq]
      constructor
      · rintro ⟨rfl, rfl⟩
        exact ⟨rfl, rfl⟩
      · rintro ⟨rfl, rfl⟩
        exact ⟨rfl, rfl⟩

/-- A declaration shows each parameter as an argument or as a value returned, and the result as a
value if it is not `void`. A promoted pointer to `void` does not show. -/
theorem declare_shows_params {name key identifier text : String} {record : Json.Value}
    (h : g.declare name key record = .ok (identifier, text)) :
    ∃ n, Native.ofRecord record = .ok n ∧
      text = (g.declaration name identifier n).header g.style ++
        Declaration.descriptionLines n.description ++
        Signature.lines identifier (g.arguments identifier n) (g.values identifier n) ++
        (Alias.block? identifier n.allAliases).getD "" ++ "\n" ∧
      (g.arguments identifier n).length + (g.values identifier n).length +
          (n.params.filter (Promotion.isHidden (identifier ∈ g.exclusions))).length =
        n.params.length + if TypeName.ofToken (Promotion.declared n) = .void then 0 else 1 := by
  obtain ⟨n, hn, -, htext⟩ := (g.declare_eq_ok_iff identifier).mp h
  exact ⟨n, hn, htext.trans (g.text_declaration identifier n name),
    g.length_arguments_add_length_values identifier n⟩

/-- A record with a parameter of each sort: hidden, promoted and kept. -/
def pointerRecord : Json.Value :=
  .object [("name", .string "GET_DATA"), ("results", .string "BOOL"),
    ("params", .array [.array [.string "data", .string "const void*"],
      .array [.string "size", .string "int*"], .array [.string "flags", .string "int"]])]

def pointerNative : Native :=
  { name := some "GET_DATA"
    results := some "BOOL"
    params := [⟨"data", "const void*"⟩, ⟨"size", "int*"⟩, ⟨"flags", "int"⟩] }

theorem declare_shows_params_pointers :
    ∃ text, (Config.generator {}).declare "NS" "0x1" pointerRecord = .ok ("GetData", text) ∧
      ((Config.generator {}).arguments "GetData" pointerNative).length +
        ((Config.generator {}).values "GetData" pointerNative).length + 1 = 3 + 1 := by
  have hn : Native.ofRecord pointerRecord = .ok pointerNative := rfl
  have hidentifier : identifier? pointerNative "0x1" = some "GetData" := by decide +kernel
  have hdeclared : (Config.generator {}).declare "NS" "0x1" pointerRecord = .ok ("GetData", _) :=
    ((Config.generator {}).declare_eq_ok_iff "GetData").mpr ⟨pointerNative, hn, hidentifier, rfl⟩
  obtain ⟨n, hn', -, hcount⟩ := declare_shows_params _ hdeclared
  obtain rfl : pointerNative = n := Except.ok.inj (hn.symm.trans hn')
  have hhidden : (pointerNative.params.filter
      (Promotion.isHidden ("GetData" ∈ (Config.generator {}).exclusions))).length = 1 := by
    decide +kernel
  have hresult : TypeName.ofToken (Promotion.declared pointerNative) ≠ .void := by decide +kernel
  rw [hhidden, if_neg hresult] at hcount
  exact ⟨_, hdeclared, hcount⟩

/-- A record whose one parameter is a pointer to `void`. -/
def voidPointerRecord : Json.Value :=
  .object [("name", .string "GET_DATA"), ("hash", .string "0x1"),
    ("params", .array [.array [.string "data", .string "void*"]])]

def voidPointerNative : Native :=
  { name := some "GET_DATA", hash := "0x1", params := [⟨"data", "void*"⟩] }

/-- The parameter of the record is neither an argument nor a value returned. -/
theorem declare_hides_void_pointer :
    Native.ofRecord voidPointerRecord = .ok voidPointerNative ∧
      (Config.generator {}).declare "NS" "0x1" voidPointerRecord = .ok ("GetData",
        "---**`NS` `client`**  \n" ++
        "---[Native Documentation](https://docs.fivem.net/natives/?_0x1)  \n" ++
        "---This native does not have an official description.\n" ++
        "function GetData() end\n\n") ∧
      ((Config.generator {}).arguments "GetData" voidPointerNative).length +
          ((Config.generator {}).values "GetData" voidPointerNative).length ≠
        voidPointerNative.params.length +
          if TypeName.ofToken (Promotion.declared voidPointerNative) = .void then 0 else 1 :=
  ⟨rfl, by decide +kernel, by decide +kernel⟩

end Generator

end NativeStubs
