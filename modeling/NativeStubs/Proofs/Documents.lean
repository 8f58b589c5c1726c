import Mathlib.Tactic.SplitIfs
import NativeStubs.Catalog
import NativeStubs.Proofs.Grammar

/-! # Documents that are read

What a reader takes off a text has a property if what its parts take off has it. So the value of
every document has distinct keys in each of its objects, and so has every catalog that is read.
-/

namespace NativeStubs

namespace Json

section Readers

variable {α β : Type} {P : α → Prop} {Q : β → Prop} {read item : Reader α}

/-- Every result of a reader has a property. -/
def Yields (P : α → Prop) (read : Reader α) : Prop :=
  ∀ s x rest, read s = some (x, rest) → P x

theorem Yields.of_map_eq_some {s rest : List Char} {f : α → β} {y : β} (h : Yields P read)
    (hf : ∀ x, P x → Q (f x))
    (hread : (read s).map (fun (x, rest) => (f x, rest)) = some (y, rest)) : Q y := by
  obtain ⟨⟨x, after⟩, hx, heq⟩ := Option.map_eq_some_iff.mp hread
  cases heq
  exact hf x (h s x _ hx)

theorem yields_itemsUntil (h : Yields P item) (close : Char) :
    Yields (∀ x ∈ ·, P x) (itemsUntil item close) := by
  intro s
  fun_induction itemsUntil item close s with
  | case1 | case2 | case5 | case6 => nofun
  | case3 s x after hitem =>
    rintro _ _ ⟨⟩
    exact List.forall_mem_singleton.mpr (h _ _ _ hitem)
  | case4 s x after hitem _ _ _ _ _ ih =>
    intro xs rest hread
    obtain ⟨⟨ys, after⟩, hys, heq⟩ := Option.map_eq_some_iff.mp hread
    cases heq
    exact List.forall_mem_cons.mpr ⟨h _ _ _ hitem, ih _ _ hys⟩

theorem yields_bracketed (h : Yields P item) (close : Char) :
    Yields (∀ x ∈ ·, P x) (bracketed item close) := by
  intro s xs rest hread
  unfold bracketed at hread
  split at hread
  · cases hread
  · split_ifs at hread
    · cases hread
      exact List.forall_mem_nil _
    · exact yields_itemsUntil h close _ _ _ hread

end Readers

theorem yields_member {P : Value → Prop} {value : Reader Value} (h : Yields P value) :
    Yields (fun field => P field.2) (member value) := by
  intro s field rest hread
  unfold member at hread
  split at hread
  · split at hread
    · cases hread
    · split at hread
      · exact h.of_map_eq_some (Q := fun field => P field.2) (fun _ hv => hv) hread
      · cases hread
  · cases hread

section Fields

variable {α : Type} {P : α → Prop} {fields : Fields α}

theorem forall_mem_insert {k : String} {v : α} (h : ∀ field ∈ fields, P field.2) (hv : P v) :
    ∀ field ∈ fields.insert k v, P field.2 := by
  induction fields with
  | nil => exact List.forall_mem_singleton.mpr hv
  | cons field rest ih =>
    obtain ⟨key, value⟩ := field
    obtain ⟨hvalue, hrest⟩ := List.forall_mem_cons.mp h
    rw [Fields.insert]
    split_ifs
    · exact List.forall_mem_cons.mpr ⟨hv, hrest⟩
    · exact List.forall_mem_cons.mpr ⟨hvalue, ih hrest⟩

theorem forall_mem_extend {additions : Fields α} (h : ∀ field ∈ fields, P field.2)
    (hadditions : ∀ field ∈ additions, P field.2) :
    ∀ field ∈ fields.extend additions, P field.2 := by
  induction additions generalizing fields with
  | nil => exact h
  | cons field rest ih =>
    obtain ⟨hfield, hrest⟩ := List.forall_mem_cons.mp hadditions
    exact ih (forall_mem_insert h hfield) hrest

end Fields

theorem yields_word : Yields Value.WellFormed word? := by
  intro s v rest hread
  unfold word? at hread
  dsimp only at hread
  split_ifs at hread <;> cases hread <;> trivial

theorem yields_number : Yields Value.WellFormed number? := by
  intro s v rest hread
  obtain ⟨n, -, heq⟩ := Option.map_eq_some_iff.mp hread
  cases heq
  trivial

theorem yields_value (depth : Nat) : Yields Value.WellFormed (value depth) := by
  induction depth using Nat.strongRecOn with
  | _ depth ih =>
    intro s v rest hread
    cases s with
    | nil =>
      unfold value at hread
      cases hread
    | cons c s =>
      unfold value at hread
      split_ifs at hread
      · obtain ⟨text, -, heq⟩ := Option.map_eq_some_iff.mp hread
        cases heq
        trivial
      · cases depth with
        | zero => cases hread
        | succ depth =>
          exact (yields_bracketed (ih depth depth.lt_succ_self) _).of_map_eq_some
            (f := .array) (fun items => (Value.wellFormed_array_iff items).mpr) hread
      · cases depth with
        | zero => cases hread
        | succ depth =>
          refine (yields_bracketed (yields_member (ih depth depth.lt_succ_self)) _).of_map_eq_some
            (f := fun fields => .object (Fields.ofList fields)) (fun fields hfields => ?_) hread
          exact (Value.wellFormed_object_iff _).mpr ⟨Fields.nodup_keys_ofList fields,
            forall_mem_extend (List.forall_mem_nil _) hfields⟩
      · exact yields_number _ _ _ hread
      · exact yields_word _ _ _ hread

/-- The value of a document has distinct keys in each of its objects. -/
theorem wellFormed_of_parse? {text : String} {v : Value} (h : parse? text = some v) :
    v.WellFormed := by
  unfold parse? at h
  split at h
  · next hvalue =>
    split_ifs at h
    cases h
    exact yields_value _ _ _ _ hvalue
  · cases h

end Json

namespace Catalog

theorem wellFormed_of_parse {text : String} {c : Catalog} (h : parse text = .ok c) :
    c.WellFormed := by
  unfold parse at h
  split at h
  · next v hparse =>
    have hv := Json.wellFormed_of_parse? hparse
    cases v <;> cases h
    exact hv
  · cases h

end Catalog

end NativeStubs
