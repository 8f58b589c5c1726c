import NativeStubs.Error
import NativeStubs.Native.Printer
import NativeStubs.Proofs.Grammar
import NativeStubs.Proofs.JsonText

/-! # Records as texts

The record that is written for a native has the names of today only and nothing but texts, lists
and `null`. Its text is read as that record, and the record as that native.
-/

namespace NativeStubs

open Json

theorem Json.Value.Plain.wellFormed {depth : Nat} {v : Value} (h : v.Plain depth) :
    v.WellFormed := by
  induction h with
  | null | bool | string => simp [Value.WellFormed]
  | array _ ih => exact (Value.wellFormed_array_iff _).mpr ih
  | object hn _ ih => exact (Value.wellFormed_object_iff _).mpr ⟨hn, ih⟩

theorem plain_optionalValue {depth : Nat} (s : Option String) :
    (optionalValue s).Plain depth := by
  cases s with
  | none => exact .null
  | some s => exact .string s

theorem plain_texts {depth : Nat} (l : List String) :
    (Value.array (l.map .string)).Plain (depth + 1) :=
  .array (List.forall_mem_map.mpr fun s _ => .string s)

theorem Param.plain_toValue {depth : Nat} (p : Param) : p.toValue.Plain (depth + 1) :=
  .object (by simp [Fields.keys]) (by
    simp only [List.forall_mem_cons, List.not_mem_nil, false_implies, implies_true, and_true]
    exact ⟨.string _, .string _⟩)

namespace Native

open Grammar

variable (n : Native)

theorem plain_toValue {depth : Nat} : n.toValue.Plain (depth + 3) := by
  refine .object (by simp [Fields.keys]) ?_
  simp only [List.forall_mem_cons, List.not_mem_nil, false_implies, implies_true, and_true]
  have hparams : (Value.array (n.params.map Param.toValue)).Plain (depth + 2) :=
    .array (List.forall_mem_map.mpr fun p _ => p.plain_toValue)
  exact ⟨plain_optionalValue _, hparams, plain_optionalValue _, plain_optionalValue _, .string _,
    plain_optionalValue _, plain_optionalValue _, plain_texts _, plain_texts _⟩

theorem optionalText_optionalValue (s : Option String) :
    OptionalText (some (optionalValue s)) s := by
  cases s with
  | none => exact .null
  | some s => exact .text s

theorem params_toValue (params : List Param) :
    Params (some (.array (params.map Param.toValue))) params := by
  refine .array (List.forall₂_map_left_iff.mpr (List.forall₂_same.mpr fun p _ => ?_))
  exact .object rfl rfl

theorem ofRecord_toValue : ofRecord n.toValue = .ok n := by
  have hplain : n.toValue.Plain maxDepth := n.plain_toValue
  refine (ofRecord_object_eq_ok_iff hplain.wellFormed).mpr ?_
  exact {
    name := optionalText_optionalValue n.name
    params := params_toValue n.params
    results := optionalText_optionalValue n.results
    description := optionalText_optionalValue n.description
    hash := .text n.hash
    oneNamespace := Or.inr rfl
    namespaceName := optionalText_optionalValue n.namespaceName
    apiset := optionalText_optionalValue n.apiset
    aliases := .array n.aliases
    oldNames := .array n.oldNames }

/-- The text of a native is a document whose record is read as the native, wherever in a catalog
the record stands. -/
theorem parse?_text_toValue : ∃ v, Json.parse? n.toValue.text = some v ∧
    ∀ name key : String, (ofRecord v).mapError (Error.malformedNative name key) = .ok n :=
  ⟨n.toValue, parse?_text n.plain_toValue, fun name key => by
    rw [n.ofRecord_toValue]
    rfl⟩

end Native

end NativeStubs
