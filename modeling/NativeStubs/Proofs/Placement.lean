import NativeStubs.Proofs.Handles

/-! # Where parameters go

Said of a single parameter, without reference to how a type is read: what its type is with
`object_1` for every `Object`, what is left of that without a star and `const`, and when the value
is returned. Every parameter goes to one place, and the places of all parameters, in call order,
make up the promotion.
-/

namespace NativeStubs

open Text Pointer

namespace Pointer

variable {s t base : List Char} {c : Char}

/-- A type, and the same with `object_1` for every `Object`. -/
inductive Rewritten : List Char → List Char → Prop
  | nil : Rewritten [] []
  | handle {s t : List Char} : Rewritten s t →
      Rewritten ("Object".toList ++ s) ("object_1".toList ++ t)
  | other {c : Char} {s t : List Char} : ¬ "Object".toList <+: c :: s → Rewritten s t →
      Rewritten (c :: s) (c :: t)

theorem rewritten_iff : Rewritten s t ↔ respell s = t := by
  constructor
  · intro h
    induction h with
    | nil => rfl
    | handle _ ih =>
      rw [respell, replaceAll_append_self (by decide)]
      exact congrArg _ ih
    | other hnot _ ih =>
      rw [respell, replaceAll_cons hnot]
      exact congrArg _ ih
  · rintro rfl
    have hpattern : "Object".toList ≠ [] := by decide
    induction scanned hpattern s with
    | nil => exact .nil
    | plain hnot _ ih =>
      rw [respell, replaceAll_cons hnot]
      exact .other hnot ih
    | occurrence _ ih =>
      rw [respell, replaceAll_append_self hpattern]
      exact .handle ih

/-- A type, and what is left of it. Without a star at its end it stays as it is. Otherwise the star
goes with the blanks before it, and so does `const` with the blanks after it if there are any. -/
inductive Stripped : List Char → List Char → Prop
  | plain {type : List Char} : type.getLast? ≠ some '*' → Stripped type type
  | bare {base blanks : List Char} : (∀ c ∈ blanks, isBlank c = true) →
      (∀ c ∈ base.getLast?, isBlank c = false) →
      (∀ c, "const".toList ++ [c] <+: base → isBlank c = false) →
      Stripped (base ++ blanks ++ ['*']) base
  | qualified {gap base blanks : List Char} : (∀ c ∈ gap, isBlank c = true) → gap ≠ [] →
      (∀ c ∈ blanks, isBlank c = true) → base ≠ [] → (∀ c ∈ base.head?, isBlank c = false) →
      (∀ c ∈ base.getLast?, isBlank c = false) →
      Stripped ("const".toList ++ gap ++ base ++ blanks ++ ['*']) base

/-- What is left of a type is what is left of its pointee, or the type itself. -/
theorem stripped_iff : Stripped s base ↔ (pointeeChars? s).getD s = base := by
  constructor
  · intro h
    cases h with
    | plain hlast => rw [pointeeChars?, if_neg hlast, Option.getD_none]
    | bare hblanks hlast hfree =>
      rw [pointeeChars?_star, trimEnd_append hlast hblanks, unqualify_of_unqualified hfree,
        Option.getD_some]
    | @qualified gap base blanks hgap hne hblanks hbase hfirst hlast =>
      have hend : ∀ c ∈ ("const".toList ++ gap ++ base).getLast?, isBlank c = false := by
        rwa [List.getLast?_append_of_ne_nil _ hbase]
      rw [pointeeChars?_star, trimEnd_append hend hblanks, unqualify_const hfirst hgap hne,
        Option.getD_some]
  · rintro rfl
    by_cases hstar : s.getLast? = some '*'
    · obtain ⟨front, rfl⟩ := List.getLast?_eq_some_iff.mp hstar
      obtain ⟨blanks, hblanks, hfront⟩ := exists_trimEnd_append front
      have hlast := isBlank_of_mem_getLast?_trimEnd front
      rw [pointeeChars?_star, Option.getD_some]
      suffices h : Stripped (trimEnd front ++ blanks ++ ['*']) (unqualify (trimEnd front)) by
        rwa [hfront] at h
      generalize trimEnd front = body at hlast
      rcases unqualify_cases body with ⟨hsame, hfree⟩ | ⟨gap, hne, hgap, hfirst, hconst⟩
      · rw [hsame]
        exact .bare hblanks hlast hfree
      · have hbase : unqualify body ≠ [] := by
          intro hnil
          rw [hnil, List.append_nil] at hconst
          rw [← hconst, List.getLast?_append_of_ne_nil _ hne] at hlast
          have hblank := hgap _ (List.getLast_mem hne)
          rw [hlast _ (List.getLast?_eq_some_getLast hne)] at hblank
          cases hblank
        rw [← hconst, List.getLast?_append_of_ne_nil _ hbase] at hlast
        have h := Stripped.qualified hgap hne hblanks hbase hfirst hlast
        rwa [hconst] at h
    · rw [pointeeChars?, if_neg hstar, Option.getD_none]
      exact .plain hstar

theorem rewritten_iff_disambiguate {type : String} :
    Rewritten type.toList t ↔ (disambiguate type).toList = t := by
  rw [rewritten_iff, toList_disambiguate]

theorem stripped_iff_strip {type base : String} :
    Stripped type.toList base.toList ↔ strip type = base := by
  have htype : (strip type).toList = (pointeeChars? type.toList).getD type.toList := by
    rw [strip, pointee?]
    cases pointeeChars? type.toList <;> simp
  rw [stripped_iff, ← htype, String.toList_inj]

end Pointer

namespace Promotion

/-- The word for characters, each of its letters small or capital. -/
def SaysChar (token : String) : Prop :=
  List.Forall₂ (· ∈ ·) token.toList [['c', 'C'], ['h', 'H'], ['a', 'A'], ['r', 'R']]

theorem toLower_eq_iff_of_isLower {c d : Char} (hd : d.isLower = true) :
    c.toLower = d ↔ c ∈ [d, d.toUpper] := by
  rw [List.mem_pair]
  constructor
  · rintro rfl
    by_cases hc : c.isUpper = true
    · have hupper : c.toUpper = c := Char.toUpper_eq_of_not_isLower (Char.not_isLower_of_isUpper hc)
      rw [Char.toUpper_toLower_eq_toUpper, hupper]
      exact Or.inr rfl
    · exact Or.inl (Char.toLower_eq_of_not_isUpper hc).symm
  · have hlower : d.toLower = d := Char.toLower_eq_of_not_isUpper (Char.not_isUpper_of_isLower hd)
    rintro (rfl | rfl)
    · exact hlower
    · rw [Char.toLower_toUpper_eq_toLower, hlower]

theorem forall₂_mem_iff_map_toLower_eq {word : List Char} (hword : ∀ d ∈ word, d.isLower = true)
    (s : List Char) :
    List.Forall₂ (· ∈ ·) s (word.map fun d => [d, d.toUpper]) ↔ s.map Char.toLower = word := by
  induction word generalizing s with
  | nil => simp
  | cons d word ih =>
    obtain ⟨hd, hrest⟩ := List.forall_mem_cons.mp hword
    rw [List.map_cons, List.forall₂_cons_right_iff, List.map_eq_cons_iff]
    constructor
    · rintro ⟨c, s, hc, hs, rfl⟩
      exact ⟨c, s, rfl, (toLower_eq_iff_of_isLower hd).mpr hc, (ih hrest s).mp hs⟩
    · rintro ⟨c, s, rfl, hc, hs⟩
      exact ⟨c, s, (toLower_eq_iff_of_isLower hd).mp hc, (ih hrest s).mpr hs, rfl⟩

theorem saysChar_iff (token : String) : SaysChar token ↔ isChar token = true := by
  have hword : ∀ d ∈ "char".toList, d.isLower = true := by simp
  rw [isChar, beq_iff_eq, ← forall₂_mem_iff_map_toLower_eq hword]
  rfl

/-- Where a parameter goes. It is kept under its name with what is left of its type, unless its
value is returned: if it is a pointer, but not to characters, of a native that is not excluded. -/
inductive Placed (excluded : Prop) (p : Param) : Param ⊕ String → Prop
  | kept {type bare : String} : Rewritten p.type.toList type.toList →
      Stripped type.toList bare.toList →
      (type.toList.getLast? ≠ some '*' ∨ excluded ∨ SaysChar bare) →
      Placed excluded p (.inl ⟨p.name, bare⟩)
  | returned {type bare : String} : Rewritten p.type.toList type.toList →
      Stripped type.toList bare.toList → type.toList.getLast? = some '*' → ¬ excluded →
      ¬ SaysChar bare → Placed excluded p (.inr bare)

/-- The declared result of a native, handles respelled and stripped. It is `void` if the native has
no result token or a blank one. -/
def Declares (n : Native) (result : String) : Prop :=
  ∃ type : String, Rewritten (n.resultToken?.getD "void").toList type.toList ∧
    Stripped type.toList result.toList

variable {excluded : Prop} [Decidable excluded] {p : Param}

theorem isPromoted_iff :
    isPromoted excluded p = true ↔ (disambiguate p.type).toList.getLast? = some '*' ∧
      ¬ excluded ∧ ¬ SaysChar (bareType p) := by
  simp [isPromoted, saysChar_iff, and_assoc]

theorem placed_iff {x : Param ⊕ String} : Placed excluded p x ↔ place excluded p = x := by
  rw [place_eq]
  constructor
  · intro h
    cases h with
    | kept hrewritten hstripped hkept =>
      obtain rfl := String.toList_inj.mp (rewritten_iff_disambiguate.mp hrewritten)
      obtain rfl := stripped_iff_strip.mp hstripped
      have hnot : ¬ isPromoted excluded p = true := by
        rintro hpromoted
        obtain ⟨hstar, hexcluded, hchar⟩ := isPromoted_iff.mp hpromoted
        exact hkept.elim (absurd hstar) fun h => h.elim hexcluded hchar
      rw [if_neg hnot]
      rfl
    | returned hrewritten hstripped hstar hexcluded hchar =>
      obtain rfl := String.toList_inj.mp (rewritten_iff_disambiguate.mp hrewritten)
      obtain rfl := stripped_iff_strip.mp hstripped
      rw [if_pos (isPromoted_iff.mpr ⟨hstar, hexcluded, hchar⟩)]
      rfl
  · rintro rfl
    have hrewritten : Rewritten p.type.toList (disambiguate p.type).toList :=
      rewritten_iff_disambiguate.mpr rfl
    have hstripped : Stripped (disambiguate p.type).toList (bareType p).toList :=
      stripped_iff_strip.mpr rfl
    split_ifs with hpromoted
    · obtain ⟨hstar, hexcluded, hchar⟩ := isPromoted_iff.mp hpromoted
      exact .returned hrewritten hstripped hstar hexcluded hchar
    · refine .kept hrewritten hstripped ?_
      by_contra hnot
      obtain ⟨hstar, hrest⟩ := not_or.mp hnot
      obtain ⟨hexcluded, hchar⟩ := not_or.mp hrest
      exact hpromoted (isPromoted_iff.mpr ⟨not_not.mp hstar, hexcluded, hchar⟩)

theorem forall₂_placed_iff {params : List Param} {places : List (Param ⊕ String)} :
    List.Forall₂ (Placed excluded) params places ↔ params.map (place excluded) = places := by
  have hplaced : Placed excluded = fun p x => place excluded p = x := by
    ext p x
    exact placed_iff
  rw [hplaced, ← List.forall₂_map_left_iff (R := Eq), List.forall₂_eq_eq_eq]

theorem declares_iff {n : Native} {result : String} :
    Declares n result ↔ declared n = result := by
  have htoken : n.declaredResult = n.resultToken?.getD "void" := by
    unfold Native.declaredResult Native.resultToken?
    cases n.results with
    | none => rfl
    | some token => cases hblank : allBlank token <;> simp [Option.filter, hblank, voidToken]
  rw [declared, htoken]
  constructor
  · rintro ⟨type, hrewritten, hstripped⟩
    obtain rfl := String.toList_inj.mp (rewritten_iff_disambiguate.mp hrewritten)
    exact stripped_iff_strip.mp hstripped
  · rintro rfl
    exact ⟨_, rewritten_iff_disambiguate.mpr rfl, stripped_iff_strip.mpr rfl⟩

variable {places : List (Param ⊕ String)}

theorem returned_ne_nil_iff : places.filterMap Sum.getRight? ≠ [] ↔ places.any Sum.isRight := by
  rw [ne_eq, List.filterMap_eq_nil_iff, List.any_eq_true]
  simp

theorem length_returned : (places.filterMap Sum.getRight?).length = places.countP Sum.isRight := by
  rw [List.length_filterMap_eq_countP]
  congr
  funext place
  cases place <;> rfl

/-- Promotion splits the parameters in two. Every parameter goes to one place: it is kept, or its
value is returned. The parameters are those that are kept, in call order, and the return types those
of the values that are returned, in call order, with the declared result before them unless it is
`void` and there is one. So a native always returns something. A native that is excluded keeps every
parameter, and one pass over the parameters gives the same. -/
theorem ofNative_partitions (exclusions : List String) (n : Native) (identifier : String) :
    (∀ p, ∃! place, Placed (identifier ∈ exclusions) p place) ∧
    (∃! result, Declares n result) ∧
    (∀ places result, List.Forall₂ (Placed (identifier ∈ exclusions)) n.params places →
      Declares n result →
        (ofNative exclusions n identifier).params = places.filterMap Sum.getLeft? ∧
        (ofNative exclusions n identifier).returns =
          (if result = "void" ∧ places.any Sum.isRight then [] else [result]) ++
            places.filterMap Sum.getRight? ∧
        (ofNative exclusions n identifier).params.length + places.countP Sum.isRight =
          n.params.length ∧
        (identifier ∈ exclusions →
          (ofNative exclusions n identifier).returns = [result] ∧
            (ofNative exclusions n identifier).params.map Param.name = n.params.map Param.name)) ∧
    (ofNative exclusions n identifier).returns ≠ [] ∧
    ofNative exclusions n identifier = inOnePass exclusions n identifier := by
  refine ⟨fun p => ⟨_, placed_iff.mpr rfl, fun x hx => (placed_iff.mp hx).symm⟩,
    ⟨_, declares_iff.mpr rfl, fun x hx => (declares_iff.mp hx).symm⟩, ?_,
    returns_ofNative_ne_nil exclusions n identifier, ?_⟩
  · intro places result hplaces hresult
    obtain rfl := forall₂_placed_iff.mp hplaces
    obtain rfl := declares_iff.mp hresult
    have hkept := kept_eq_filterMap (identifier ∈ exclusions) n.params
    have hpromoted := promoted_eq_filterMap (identifier ∈ exclusions) n.params
    have hparams := ofNative_params exclusions n identifier
    refine ⟨hparams.trans hkept, ?_, ?_, fun hexcluded => ?_⟩
    · rw [ofNative_eq_gathered, gathered, hpromoted]
      simp only [returned_ne_nil_iff]
      rfl
    · rw [hparams, ← length_returned, ← hpromoted]
      exact length_kept_add_length_promoted (identifier ∈ exclusions) n.params
    · have hreturns := returns_ofNative exclusions n identifier
      have hbare := (kept_eq_and_promoted_eq (identifier ∈ exclusions) n.params).1
      rw [isPromoted_of_mem hexcluded] at hreturns hbare
      rw [hreturns, hparams, hbare]
      simp [bare]
  · rw [inOnePass, gather_eq_gathered]
    exact ofNative_eq_gathered exclusions n identifier

/-- A native that finds an entity and an object by a label. -/
def objectNative : Native :=
  { params := [⟨"entity", "Entity *"⟩, ⟨"label", "const\u3000CHAR*"⟩, ⟨"object", "const Object*"⟩,
      ⟨"rows", "object"⟩]
    results := some " " }

/-- The label stays a parameter. So do the others where the native is one that releases them. -/
theorem ofNative_partitions_objectNative :
    (ofNative releasingNatives objectNative "FindObject").returns = ["Entity", "object_1"] ∧
      (ofNative releasingNatives objectNative "FindObject").params =
        [⟨"label", "CHAR"⟩, ⟨"rows", "object"⟩] ∧
      "DeleteObject" ∈ releasingNatives ∧
      (ofNative releasingNatives objectNative "DeleteObject").returns = ["void"] ∧
      (ofNative releasingNatives objectNative "DeleteObject").params =
        [⟨"entity", "Entity"⟩, ⟨"label", "CHAR"⟩, ⟨"object", "object_1"⟩, ⟨"rows", "object"⟩] := by
  have hresult : Declares objectNative "void" := declares_iff.mpr (by decide +kernel)
  have hfind : List.Forall₂ (Placed ("FindObject" ∈ releasingNatives)) objectNative.params
      [.inr "Entity", .inl ⟨"label", "CHAR"⟩, .inr "object_1", .inl ⟨"rows", "object"⟩] :=
    forall₂_placed_iff.mpr (by decide +kernel)
  have hdelete : List.Forall₂ (Placed ("DeleteObject" ∈ releasingNatives)) objectNative.params
      [.inl ⟨"entity", "Entity"⟩, .inl ⟨"label", "CHAR"⟩, .inl ⟨"object", "object_1"⟩,
        .inl ⟨"rows", "object"⟩] :=
    forall₂_placed_iff.mpr (by decide +kernel)
  have hmem : "DeleteObject" ∈ releasingNatives := by decide
  obtain ⟨-, -, hfound, -⟩ := ofNative_partitions releasingNatives objectNative "FindObject"
  obtain ⟨-, -, hdeleted, -⟩ := ofNative_partitions releasingNatives objectNative "DeleteObject"
  obtain ⟨hparams, hreturns, -⟩ := hfound _ _ hfind hresult
  obtain ⟨hparams', -, -, hexcluded⟩ := hdeleted _ _ hdelete hresult
  exact ⟨hreturns, hparams, hmem, (hexcluded hmem).1, hparams'⟩

end Promotion

end NativeStubs
