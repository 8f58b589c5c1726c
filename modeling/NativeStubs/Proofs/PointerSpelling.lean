import Mathlib.Data.List.DropRight
import NativeStubs.Proofs.Partition
import NativeStubs.Proofs.Replacement

/-! # Spellings of a pointer type

A pointer type is spelled with or without blanks before its star and with or without `const` and a
blank before its base. Promotion reads every spelling as a pointer to the base, handles respelled,
so it does not matter which one a catalog has. Every type with a star at its end is such a spelling.
-/

namespace NativeStubs

namespace Text

variable {s blanks : List Char} {c : Char}

theorem trimStart_append (hblanks : ∀ c ∈ blanks, isBlank c = true)
    (hs : ∀ c ∈ s.head?, isBlank c = false) : trimStart (blanks ++ s) = s := by
  induction blanks with
  | nil =>
    cases s with
    | nil => rfl
    | cons c s => exact trimStart_cons_of_not_blank (hs c rfl)
  | cons c blanks ih =>
    obtain ⟨hc, hrest⟩ := List.forall_mem_cons.mp hblanks
    rw [List.cons_append, trimStart_cons_of_blank hc, ih hrest]

theorem trimEnd_append (hs : ∀ c ∈ s.getLast?, isBlank c = false)
    (hblanks : ∀ c ∈ blanks, isBlank c = true) : trimEnd (s ++ blanks) = s := by
  induction blanks using List.reverseRecOn with
  | nil =>
    rw [List.append_nil]
    rcases List.eq_nil_or_concat' s with rfl | ⟨front, last, rfl⟩
    · rfl
    · exact trimEnd_append_of_not_blank (hs last (by simp))
  | append_singleton blanks c ih =>
    obtain ⟨hrest, hc⟩ := List.forall_mem_append.mp hblanks
    rw [← List.append_assoc, trimEnd_append_of_blank (hc c List.mem_cons_self), ih hrest]

theorem isBlank_of_mem_head?_trimStart (s : List Char) :
    ∀ c ∈ (trimStart s).head?, isBlank c = false := by
  intro c hc
  have hfirst := List.head?_dropWhile_not isBlank s
  rwa [← trimStart, hc] at hfirst

theorem isBlank_of_mem_getLast?_trimEnd (s : List Char) :
    ∀ c ∈ (trimEnd s).getLast?, isBlank c = false := by
  intro c hc
  rw [trimEnd, List.getLast?_reverse] at hc
  exact isBlank_of_mem_head?_trimStart s.reverse c hc

theorem exists_trimEnd_append (s : List Char) :
    ∃ blanks, (∀ c ∈ blanks, isBlank c = true) ∧ trimEnd s ++ blanks = s :=
  ⟨s.rtakeWhile isBlank, fun _ hc => List.mem_rtakeWhile_imp hc,
    List.rdropWhile_append_rtakeWhile⟩

end Text

open Text

namespace Pointer

variable {base blanks gap : List Char}

/-- A text that a pointer type has before its star: not empty, without blanks at its ends and not
qualified itself. -/
structure IsBase (base : List Char) : Prop where
  ne_nil : base ≠ []
  head : ∀ c ∈ base.head?, isBlank c = false
  last : ∀ c ∈ base.getLast?, isBlank c = false
  unqualified : ∀ c, "const".toList ++ [c] <+: base → isBlank c = false

theorem isBase_of_noBlank (hne : base ≠ []) (hblank : base.any isBlank = false) : IsBase base := by
  have h (c : Char) (hc : c ∈ base) : isBlank c = false := by
    simpa using List.any_eq_false.mp hblank c hc
  exact ⟨hne, fun c hc => h c (List.mem_of_head? hc), fun c hc => h c (List.mem_of_getLast? hc),
    fun c hc => h c (hc.subset (by simp))⟩

/-- The spellings of the pointer type to a base. There may be blanks before the star, and `const`
and at least one blank before the base. -/
inductive Spells (base : String) : String → Prop
  | bare (blanks : String) (hblanks : allBlank blanks) : Spells base (base ++ blanks ++ "*")
  | qualified (gap blanks : String) (hgap : allBlank gap) (hne : gap ≠ "")
      (hblanks : allBlank blanks) : Spells base ("const" ++ gap ++ base ++ blanks ++ "*")

/-- The shortest spelling. -/
theorem Spells.star (base : String) : Spells base (base ++ "*") := by
  have h : Spells base (base ++ "" ++ "*") := .bare "" rfl
  rwa [String.append_empty] at h

/-- A type with `object_1` for every `Object`. -/
def respell (type : List Char) : List Char :=
  replaceAll "Object".toList "object_1".toList type

theorem toList_disambiguate (type : String) :
    (disambiguate type).toList = respell type.toList := String.toList_ofList

/-- No blank is part of a handle. -/
theorem notMem_object_of_isBlank {c : Char} (h : isBlank c = true) : c ∉ "Object".toList := by
  intro hmem
  simp only [String.reduceToList, List.mem_cons, List.not_mem_nil, or_false] at hmem
  rcases hmem with rfl | rfl | rfl | rfl | rfl | rfl <;> exact absurd h (by decide)

/-- `const` and what comes after it cannot be the work of a replacement. -/
theorem IsBase.respell (h : IsBase base) : IsBase (respell base) where
  ne_nil := mt (replaceAll_eq_nil_iff (by decide) (by decide)).mp h.ne_nil
  head c hc := by
    have hends : (Pointer.respell base).head? = base.head? ∨
        (Pointer.respell base).head? = "object_1".toList.head? :=
      head?_replaceAll (by decide) (by decide) base
    rcases hends with hsame | hnew
    · exact h.head c (hsame ▸ hc)
    · rw [hnew] at hc
      obtain rfl := Option.some.inj hc
      decide
  last c hc := by
    have hends : (Pointer.respell base).getLast? = base.getLast? ∨
        (Pointer.respell base).getLast? = "object_1".toList.getLast? :=
      getLast?_replaceAll (by decide) (by decide) base
    rcases hends with hsame | hnew
    · exact h.last c (hsame ▸ hc)
    · rw [hnew] at hc
      obtain rfl := Option.some.inj hc
      decide
  unqualified c hc := by
    by_contra hblank
    have hne : c ≠ 'o' := fun he => hblank (he ▸ by decide)
    refine hblank (h.unqualified c (prefix_of_prefix_replaceAll (by decide) ?_ hc))
    intro v hv hnil
    simp only [String.reduceToList, List.cons_append, List.nil_append, List.suffix_cons_iff,
      List.suffix_nil] at hv
    rcases hv with rfl | rfl | rfl | rfl | rfl | rfl | rfl <;> simp [hne, hne.symm] at hnil ⊢

theorem unqualify_const (hbase : ∀ c ∈ base.head?, isBlank c = false)
    (hgap : ∀ c ∈ gap, isBlank c = true) (hne : gap ≠ []) :
    unqualify ("const".toList ++ gap ++ base) = base := by
  cases gap with
  | nil => exact absurd rfl hne
  | cons c gap =>
    have hstart : "const".toList.isPrefixOf? ("const".toList ++ (c :: gap) ++ base) =
        some (c :: (gap ++ base)) :=
      List.isPrefixOf?_eq_some_iff_append_eq.mpr (by simp)
    unfold unqualify
    rw [hstart]
    dsimp only
    rw [hgap c List.mem_cons_self, if_pos rfl]
    exact trimStart_append hgap hbase

theorem pointeeChars?_star (s : List Char) :
    pointeeChars? (s ++ ['*']) = some (unqualify (trimEnd s)) := by
  simp [pointeeChars?]

theorem respell_append_star (hblanks : ∀ c ∈ blanks, isBlank c = true) (s : List Char) :
    respell (s ++ blanks ++ ['*']) = respell s ++ blanks ++ ['*'] := by
  have hstar : ∀ c ∈ blanks ++ ['*'], c ∉ "Object".toList := by
    intro c hc
    rcases List.mem_append.mp hc with hc | hc
    · exact notMem_object_of_isBlank (hblanks c hc)
    · obtain rfl := List.mem_singleton.mp hc
      decide
  have h : respell (s ++ (blanks ++ ['*']) ++ []) = respell s ++ (blanks ++ ['*']) ++ respell [] :=
    replaceAll_append_append (by decide) (by simp) hstar s []
  simpa [respell] using h

theorem respell_const_append (hgap : ∀ c ∈ gap, isBlank c = true) (hne : gap ≠ [])
    (s : List Char) :
    respell ("const".toList ++ gap ++ s) = "const".toList ++ gap ++ respell s := by
  have hconst : respell "const".toList = "const".toList := by decide
  have h : respell ("const".toList ++ gap ++ s) = respell "const".toList ++ gap ++ respell s :=
    replaceAll_append_append (by decide) hne
      (fun c hc => notMem_object_of_isBlank (hgap c hc)) "const".toList s
  rwa [hconst] at h

/-- Every spelling of a pointer type is read as a pointer to its base. -/
theorem pointee?_eq_base {base type : String} (hbase : IsBase base.toList)
    (h : Spells base type) : pointee? type = some base := by
  cases h with
  | bare blanks hblanks =>
    have hblanks := List.all_eq_true.mp hblanks
    have htype : (base ++ blanks ++ "*").toList = base.toList ++ blanks.toList ++ ['*'] := by simp
    rw [pointee?, htype, pointeeChars?_star, trimEnd_append hbase.last hblanks,
      unqualify_of_unqualified hbase.unqualified, Option.map_some, String.ofList_toList]
  | qualified gap blanks hgap hne hblanks =>
    have hgap := List.all_eq_true.mp hgap
    have hblanks := List.all_eq_true.mp hblanks
    have hne : gap.toList ≠ [] := by simpa using hne
    have htype : ("const" ++ gap ++ base ++ blanks ++ "*").toList =
        "const".toList ++ gap.toList ++ base.toList ++ blanks.toList ++ ['*'] := by simp
    have hlast : ∀ c ∈ ("const".toList ++ gap.toList ++ base.toList).getLast?,
        isBlank c = false := by
      rw [List.getLast?_append_of_ne_nil _ hbase.ne_nil]
      exact hbase.last
    rw [pointee?, htype, pointeeChars?_star, trimEnd_append hlast hblanks,
      unqualify_const hbase.head hgap hne, Option.map_some, String.ofList_toList]

/-- Handles are respelled in the base only. -/
theorem Spells.disambiguate {base type : String} (h : Spells base type) :
    Spells (Pointer.disambiguate base) (Pointer.disambiguate type) := by
  cases h with
  | bare blanks hblanks =>
    have htype : Pointer.disambiguate (base ++ blanks ++ "*") =
        Pointer.disambiguate base ++ blanks ++ "*" := by
      apply String.toList_injective
      simpa [toList_disambiguate] using
        respell_append_star (List.all_eq_true.mp hblanks) base.toList
    rw [htype]
    exact .bare blanks hblanks
  | qualified gap blanks hgap hne hblanks =>
    have hne' : gap.toList ≠ [] := by simpa using hne
    have htype : Pointer.disambiguate ("const" ++ gap ++ base ++ blanks ++ "*") =
        "const" ++ gap ++ Pointer.disambiguate base ++ blanks ++ "*" := by
      apply String.toList_injective
      have hstar := respell_append_star (List.all_eq_true.mp hblanks)
        ("const".toList ++ gap.toList ++ base.toList)
      rw [respell_const_append (List.all_eq_true.mp hgap) hne'] at hstar
      simpa [toList_disambiguate] using hstar
    rw [htype]
    exact .qualified gap blanks hgap hne hblanks

theorem pointee?_of_spells {base type : String} (hbase : IsBase base.toList)
    (h : Spells base type) : pointee? (disambiguate type) = some (disambiguate base) :=
  pointee?_eq_base (toList_disambiguate base ▸ hbase.respell) h.disambiguate

/-- A type is unqualified, or it has `const` with blanks after it, which go. -/
theorem unqualify_cases (s : List Char) :
    unqualify s = s ∧ (∀ c, "const".toList ++ [c] <+: s → isBlank c = false) ∨
      ∃ gap, gap ≠ [] ∧ (∀ c ∈ gap, isBlank c = true) ∧
        (∀ c ∈ (unqualify s).head?, isBlank c = false) ∧
        "const".toList ++ gap ++ unqualify s = s := by
  by_cases h : ∃ c, "const".toList ++ [c] <+: s ∧ isBlank c = true
  · obtain ⟨c, ⟨rest, rfl⟩, hc⟩ := h
    have hunqualify : unqualify ("const".toList ++ [c] ++ rest) = trimStart rest := by
      have hstart : "const".toList.isPrefixOf? ("const".toList ++ [c] ++ rest) =
          some (c :: rest) := List.isPrefixOf?_eq_some_iff_append_eq.mpr (by simp)
      unfold unqualify
      rw [hstart]
      dsimp only
      rw [if_pos hc, trimStart_cons_of_blank hc]
    rw [hunqualify]
    refine Or.inr ⟨c :: rest.takeWhile isBlank, List.cons_ne_nil _ _, ?_,
      isBlank_of_mem_head?_trimStart rest, ?_⟩
    · exact List.forall_mem_cons.mpr ⟨hc, fun d hd => List.mem_takeWhile_imp hd⟩
    · simp [trimStart, List.takeWhile_append_dropWhile]
  · have hfree : ∀ c, "const".toList ++ [c] <+: s → isBlank c = false := by
      intro c hc
      by_contra hblank
      exact h ⟨c, hc, by simpa using hblank⟩
    exact Or.inl ⟨unqualify_of_unqualified hfree, hfree⟩

/-- Every type with a star at its end is a spelling of the pointer type to what is left of it. -/
theorem spells_strip {type : String} (h : type.toList.getLast? = some '*') :
    Spells (strip type) type := by
  obtain ⟨front, hfront⟩ := List.getLast?_eq_some_iff.mp h
  obtain ⟨blanks, hblanks, htrim⟩ := exists_trimEnd_append front
  have hstrip : strip type = String.ofList (unqualify (trimEnd front)) := by
    rw [strip, pointee?, hfront, pointeeChars?_star]
    rfl
  have hall : allBlank (String.ofList blanks) = true := by simpa [allBlank] using hblanks
  rw [hstrip]
  rcases unqualify_cases (trimEnd front) with ⟨hsame, -⟩ | ⟨gap, hne, hgap, -, hconst⟩
  · have htype : type = String.ofList (trimEnd front) ++ String.ofList blanks ++ "*" :=
      String.toList_injective (by simp [hfront, htrim])
    rw [hsame, htype]
    exact .bare _ hall
  · have hchars : type.toList =
        "const".toList ++ gap ++ unqualify (trimEnd front) ++ blanks ++ ['*'] := by
      rw [hconst, htrim, hfront]
    have htype : type = "const" ++ String.ofList gap ++
        String.ofList (unqualify (trimEnd front)) ++ String.ofList blanks ++ "*" :=
      String.toList_injective (by simpa using hchars)
    rw [htype]
    exact .qualified _ _ (by simpa [allBlank] using hgap) (by simpa using hne) hall

/-- A type in another spelling: the same type, or a pointer type to the same base. -/
def Respelled (type type' : String) : Prop :=
  type = type' ∨ ∃ base, IsBase base.toList ∧ Spells base type ∧ Spells base type'

end Pointer

open Pointer

namespace Native

/-- The native with some of its pointer types in other spellings. -/
structure Respelled (n n' : Native) : Prop where
  params : List.Forall₂ (fun p p' => p.name = p'.name ∧ Pointer.Respelled p.type p'.type)
    n.params n'.params
  results : Option.Rel Pointer.Respelled n.results n'.results

theorem not_allBlank_of_spells {base type : String} (h : Spells base type) :
    allBlank type = false := by
  have hstar : '*' ∈ type.toList := by cases h <;> simp
  exact List.all_eq_false.mpr ⟨'*', hstar, by decide⟩

theorem declaredResult_respelled {n n' : Native}
    (h : Option.Rel Pointer.Respelled n.results n'.results) :
    Pointer.Respelled n.declaredResult n'.declaredResult := by
  unfold declaredResult
  generalize n.results = result, n'.results = result' at h ⊢
  cases h with
  | none => exact Or.inl rfl
  | some hresult =>
    rcases hresult with rfl | ⟨base, hbase, hspells, hspells'⟩
    · exact Or.inl rfl
    · simp only [not_allBlank_of_spells hspells, not_allBlank_of_spells hspells']
      exact Or.inr ⟨base, hbase, hspells, hspells'⟩

end Native

namespace Promotion

theorem place_respelled {p p' : Param} (isExcluded : Bool) (hname : p.name = p'.name)
    (htype : Pointer.Respelled p.type p'.type) : place isExcluded p = place isExcluded p' := by
  unfold place
  rcases htype with htype | ⟨base, hbase, hspells, hspells'⟩
  · rw [hname, htype]
  · dsimp only
    rw [pointee?_of_spells hbase hspells, pointee?_of_spells hbase hspells', hname]

theorem strip_respelled {type type' : String} (h : Pointer.Respelled type type') :
    strip (disambiguate type) = strip (disambiguate type') := by
  rcases h with rfl | ⟨base, hbase, hspells, hspells'⟩
  · rfl
  · rw [strip, strip, pointee?_of_spells hbase hspells, pointee?_of_spells hbase hspells']
    rfl

/-- The spelling of pointer types does not matter to promotion: with some of them in other
spellings, the same types are returned and the same parameters kept. What a pointer type in any
spelling leaves is its base. -/
theorem ofNative_respelled (exclusions : List String) (identifier : String) {n n' : Native}
    (h : n.Respelled n') :
    ofNative exclusions n identifier = ofNative exclusions n' identifier ∧
      ∀ p ∈ n'.params, ∀ base, IsBase base.toList → Spells base p.type →
        bareType p = disambiguate base := by
  have hplaces : List.Forall₂ (· = ·) (n.params.map (place (identifier ∈ exclusions)))
      (n'.params.map (place (identifier ∈ exclusions))) := by
    rw [List.forall₂_map_left_iff, List.forall₂_map_right_iff]
    exact h.params.imp fun _ _ ⟨hname, htype⟩ => place_respelled _ hname htype
  rw [List.forall₂_eq_eq_eq] at hplaces
  have hkept : kept (identifier ∈ exclusions) n.params =
      kept (identifier ∈ exclusions) n'.params := by
    rw [kept_eq_filterMap, kept_eq_filterMap, hplaces]
  have hpromoted : promoted (identifier ∈ exclusions) n.params =
      promoted (identifier ∈ exclusions) n'.params := by
    rw [promoted_eq_filterMap, promoted_eq_filterMap, hplaces]
  have hdeclared : declared n = declared n' :=
    strip_respelled (Native.declaredResult_respelled h.results)
  constructor
  · simp only [ofNative, hkept, hpromoted, hdeclared]
  · intro p _ base hbase hspells
    rw [bareType, strip, pointee?_of_spells hbase hspells]
    rfl

/-- A native that finds an object by its label. -/
def labelNative : Native :=
  { params := [⟨"label", "char*"⟩, ⟨"object", "Object*"⟩, ⟨"radius", "float"⟩]
    results := some "constant*" }

/-- The same with wide blanks and qualifiers. -/
def spacedNative : Native :=
  { params := [⟨"label", "const\u3000char*"⟩, ⟨"object", "const \tObject\u00a0*"⟩,
      ⟨"radius", "float"⟩]
    results := some "constant *" }

theorem ofNative_respelled_spaced : labelNative.Respelled spacedNative ∧
    ofNative [] spacedNative "GetObject" =
      ⟨["constant", "object_1"], [⟨"label", "char"⟩, ⟨"radius", "float"⟩]⟩ ∧
    bareType ⟨"object", "const \tObject\u00a0*"⟩ = "object_1" := by
  have hchar : IsBase "char".toList := isBase_of_noBlank (by decide) (by decide)
  have hobject : IsBase "Object".toList := isBase_of_noBlank (by decide) (by decide)
  have hconstant : IsBase "constant".toList := isBase_of_noBlank (by decide) (by decide)
  have hspaced : Spells "Object" "const \tObject\u00a0*" :=
    .qualified " \t" "\u00a0" (by decide) (by decide) (by decide)
  have h : labelNative.Respelled spacedNative := by
    refine ⟨.cons ⟨rfl, Or.inr ⟨"char", hchar, .star "char", ?_⟩⟩
      (.cons ⟨rfl, Or.inr ⟨"Object", hobject, .star "Object", hspaced⟩⟩
        (.cons ⟨rfl, Or.inl rfl⟩ .nil)),
      .some (Or.inr ⟨"constant", hconstant, .star "constant", ?_⟩)⟩
    · exact .qualified "\u3000" "" (by decide) (by decide) (by decide)
    · exact .bare " " (by decide)
  obtain ⟨hsame, hbare⟩ := ofNative_respelled [] "GetObject" h
  refine ⟨h, ?_, ?_⟩
  · rw [← hsame]
    decide +kernel
  · rw [hbare _ (by simp [spacedNative]) "Object" hobject hspaced]
    decide +kernel

end Promotion

end NativeStubs
