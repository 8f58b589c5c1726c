import Mathlib.Data.List.Induction
import NativeStubs.Proofs.Visibility

/-! # Kept and promoted parameters

Promotion splits the parameters of a native in two: those that are promoted leave their pointee
among the return types, the others stay parameters under their names. The same comes out of one
pass over the parameters that starts from the declared result and drops a `void` when the first
parameter is promoted. A `void` that was kept would not have shown.
-/

namespace NativeStubs

namespace Pointer

theorem pointee?_eq (type : String) :
    pointee? type = if type.toList.getLast? = some '*' then some (strip type) else none := by
  unfold strip pointee? pointeeChars?
  split_ifs <;> rfl

theorem strip_of_getLast?_ne {type : String} (h : type.toList.getLast? ≠ some '*') :
    strip type = type := by
  rw [strip, pointee?_eq, if_neg h, Option.getD_none]

/-- Only `const` with a blank after it is taken off. -/
theorem unqualify_of_unqualified {type : List Char}
    (h : ∀ c, "const".toList ++ [c] <+: type → Text.isBlank c = false) : unqualify type = type := by
  unfold unqualify
  split
  · next c rest hstart =>
    have htype := List.isPrefixOf?_eq_some_iff_append_eq.mp hstart
    have hc : Text.isBlank c = false := h c ⟨rest, by rw [← htype]; simp⟩
    rw [hc, if_neg Bool.false_ne_true]
  · rfl

end Pointer

namespace Promotion

variable (isExcluded : Bool) (result : String) (params : List Param)

/-- The type of a parameter without its star, handles respelled. -/
def bareType (p : Param) : String := Pointer.strip (Pointer.disambiguate p.type)

def bare (p : Param) : Param := ⟨p.name, bareType p⟩

/-- Whether the value of a parameter is returned: it is a pointer, but not to characters, of a
native that is not excluded. -/
def isPromoted (p : Param) : Bool :=
  (Pointer.disambiguate p.type).toList.getLast? = some '*' && !isExcluded && !isChar (bareType p)

theorem place_eq (p : Param) :
    place isExcluded p =
      if isPromoted isExcluded p then .inr (bareType p) else .inl (bare p) := by
  unfold place isPromoted bare bareType
  dsimp only
  rw [Pointer.pointee?_eq]
  by_cases hstar : (Pointer.disambiguate p.type).toList.getLast? = some '*'
  · cases isExcluded <;> cases hchar : isChar (Pointer.strip (Pointer.disambiguate p.type)) <;>
      simp [hstar, hchar]
  · simp [hstar, Pointer.strip_of_getLast?_ne hstar]

theorem kept_eq_filterMap :
    kept isExcluded params = (params.map (place isExcluded)).filterMap Sum.getLeft? := by
  rw [List.filterMap_map]
  rfl

theorem promoted_eq_filterMap :
    promoted isExcluded params = (params.map (place isExcluded)).filterMap Sum.getRight? := by
  rw [List.filterMap_map]
  rfl

/-- The parameters that are kept and those that are promoted make up the parameters. -/
theorem kept_eq_and_promoted_eq :
    kept isExcluded params = (params.filter (!isPromoted isExcluded ·)).map bare ∧
      promoted isExcluded params = (params.filter (isPromoted isExcluded)).map bareType := by
  induction params with
  | nil => exact ⟨rfl, rfl⟩
  | cons p rest ih =>
    obtain ⟨hkept, hpromoted⟩ := ih
    unfold kept at hkept ⊢
    unfold promoted at hpromoted ⊢
    have hplace := place_eq isExcluded p
    cases h : isPromoted isExcluded p <;> simp [hplace, h, hkept, hpromoted]

theorem promoted_ne_nil_iff :
    promoted isExcluded params ≠ [] ↔ params.any (isPromoted isExcluded) := by
  rw [(kept_eq_and_promoted_eq isExcluded params).2, ne_eq, List.map_eq_nil_iff,
    List.filter_eq_nil_iff]
  simp

/-- What a pass over the parameters has gathered so far. -/
structure Gathered where
  returns : List String
  params : List Param
  hasPromoted : Bool

/-- Takes up one parameter. The first one to be promoted takes the place of a `void` result. -/
def Gathered.add (isVoid : Bool) (s : Gathered) (p : Param) : Gathered :=
  match place isExcluded p with
  | .inl q => { s with params := s.params ++ [q] }
  | .inr token =>
    { s with
      returns := (if isVoid && !s.hasPromoted then [] else s.returns) ++ [token]
      hasPromoted := true }

/-- Goes over the parameters once, from the declared result on. -/
def gather : Gathered :=
  params.foldl (Gathered.add isExcluded (result = voidToken)) ⟨[result], [], false⟩

/-- What a pass has gathered in the end. -/
def gathered : Gathered where
  returns := (if result = voidToken ∧ promoted isExcluded params ≠ [] then [] else [result]) ++
    promoted isExcluded params
  params := kept isExcluded params
  hasPromoted := promoted isExcluded params ≠ []

theorem add_gathered (p : Param) :
    (gathered isExcluded result params).add isExcluded (result = voidToken) p =
      gathered isExcluded result (params ++ [p]) := by
  unfold gathered Gathered.add kept promoted
  cases h : place isExcluded p with
  | inl q => simp [h]
  | inr token =>
    -- The placeholder goes with the first promoted parameter and is gone at the later ones.
    by_cases hvoid : result = voidToken <;>
      by_cases hfirst : params.filterMap (fun p => (place isExcluded p).getRight?) = [] <;>
        simp [h, hvoid, hfirst]

theorem gather_eq_gathered :
    gather isExcluded result params = gathered isExcluded result params := by
  unfold gather
  -- From the end, where the pass adds what it finds.
  induction params using List.reverseRecOn with
  | nil => simp [gathered, promoted, kept]
  | append_singleton params p ih => rw [List.foldl_concat, ih, add_gathered]

variable (exclusions : List String) (n : Native) (identifier : String)

theorem ofNative_eq_gathered :
    ofNative exclusions n identifier =
      ⟨(gathered (identifier ∈ exclusions) (declared n) n.params).returns,
        (gathered (identifier ∈ exclusions) (declared n) n.params).params⟩ := by
  unfold ofNative gathered
  dsimp only
  split_ifs <;> rfl

theorem isPromoted_of_mem {exclusions : List String} {identifier : String}
    (h : identifier ∈ exclusions) : isPromoted (identifier ∈ exclusions) = fun _ => false := by
  funext p
  simp [isPromoted, h]

theorem returns_ofNative :
    (ofNative exclusions n identifier).returns =
      (if declared n = voidToken ∧ n.params.any (isPromoted (identifier ∈ exclusions)) then []
        else [declared n]) ++
        (n.params.filter (isPromoted (identifier ∈ exclusions))).map bareType := by
  rw [ofNative_eq_gathered, gathered]
  simp only [promoted_ne_nil_iff]
  rw [(kept_eq_and_promoted_eq _ n.params).2]

theorem returns_ofNative_ne_nil : (ofNative exclusions n identifier).returns ≠ [] := by
  unfold ofNative
  dsimp only
  split_ifs with h
  · exact h.2
  · exact List.cons_ne_nil _ _

/-- The promotion that one pass over the parameters gives. -/
def inOnePass : Promotion :=
  let s := gather (identifier ∈ exclusions) (declared n) n.params
  ⟨s.returns, s.params⟩

/-- The line for the values returned that type tokens give. -/
def valueLine? (tokens : List String) : Option String :=
  Declaration.returnLine? ((tokens.map TypeName.ofToken).map TypeName.text)

/-- Only types that are not `void` tell in the line. -/
theorem valueLine?_congr {tokens tokens' : List String}
    (h : (tokens.map TypeName.ofToken).filterMap TypeName.value? =
      (tokens'.map TypeName.ofToken).filterMap TypeName.value?) :
    valueLine? tokens = valueLine? tokens' := by
  rw [valueLine?, valueLine?, Declaration.returnLine?_map_text, Declaration.returnLine?_map_text, h]

theorem valueLine?_voidToken_cons (tokens : List String) :
    valueLine? (voidToken :: tokens) = valueLine? tokens := by
  have hvoid : TypeName.ofToken voidToken = .void := by decide +kernel
  refine valueLine?_congr ?_
  rw [List.map_cons, hvoid]
  rfl

/-- The line at any point of a pass is that of the result and of what is promoted so far. -/
theorem valueLine?_gather :
    valueLine? (gather isExcluded result params).returns =
      valueLine? (result :: (params.filter (isPromoted isExcluded)).map bareType) := by
  rw [gather_eq_gathered, gathered, (kept_eq_and_promoted_eq isExcluded params).2]
  dsimp only
  split_ifs with h
  · rw [h.1, valueLine?_voidToken_cons, List.nil_append]
  · rfl

/-- It does not show whether a `void` result has made way for promoted types: the line for the
values returned is the one of the declared result with all promoted types after it. So it is all
along the pass, whatever the parameters up to there. -/
theorem valueLine?_ofNative :
    valueLine? (ofNative exclusions n identifier).returns =
        valueLine? (declared n ::
          (n.params.filter (isPromoted (identifier ∈ exclusions))).map bareType) ∧
      ∀ params,
        valueLine? (gather (identifier ∈ exclusions) (declared n) params).returns =
          valueLine? (declared n ::
            (params.filter (isPromoted (identifier ∈ exclusions))).map bareType) := by
  have hpass (params : List Param) :=
    valueLine?_gather (identifier ∈ exclusions) (declared n) params
  refine ⟨?_, hpass⟩
  rw [ofNative_eq_gathered, ← gather_eq_gathered]
  exact hpass n.params

/-- A pointee that is `void` itself does not show either. -/
example :
    (ofNative [] { params := [⟨"data", "void*"⟩, ⟨"size", "int*"⟩] } "GetData").returns =
        ["void", "int"] ∧
      valueLine? ["void", "int"] = some "---@return number" := by
  decide +kernel

end Promotion

end NativeStubs
