import Mathlib.Data.List.Infix
import NativeStubs.Text.Replace

/-! # What a replacement leaves

Replacing a pattern reads the text from the left. Characters that are not in the pattern cut the
text into parts that are replaced one by one, and the ends of the text stay unless an occurrence
stands there. Every occurrence gives way to the replacement, and if that can be no part of another
one, none is left.
-/

namespace NativeStubs

namespace Text

variable {pattern replacement s u : List Char} {c : Char}

/-- A text read from the left, an occurrence of a pattern at once and other characters one by
one. -/
inductive Scanned (pattern : List Char) : List Char → Prop
  | nil : Scanned pattern []
  | plain {c : Char} {s : List Char} : ¬ pattern <+: c :: s → Scanned pattern s →
      Scanned pattern (c :: s)
  | occurrence {s : List Char} : Scanned pattern s → Scanned pattern (pattern ++ s)

theorem scanned (hpattern : pattern ≠ []) : (s : List Char) → Scanned pattern s
  | [] => .nil
  | c :: s => by
    by_cases h : pattern <+: c :: s
    · obtain ⟨rest, hrest⟩ := h
      rw [← hrest]
      have hshort : rest.length < (c :: s).length := by
        rw [← hrest, List.length_append]
        have := List.length_pos_of_ne_nil hpattern
        omega
      exact .occurrence (scanned hpattern rest)
    · exact .plain h (scanned hpattern s)
termination_by s => s.length
decreasing_by
  · exact hshort
  · exact Nat.lt_succ_self s.length

theorem replaceFrom_length_append (u s : List Char) :
    replaceFrom pattern replacement u.length (u ++ s) = replaceFrom pattern replacement 0 s := by
  induction u with
  | nil => rfl
  | cons c u ih => exact ih

@[simp] theorem replaceAll_append_self (hpattern : pattern ≠ []) (s : List Char) :
    replaceAll pattern replacement (pattern ++ s) =
      replacement ++ replaceAll pattern replacement s := by
  cases pattern with
  | nil => exact absurd rfl hpattern
  | cons p ps =>
    have hstart : (p :: ps).isPrefixOf (p :: (ps ++ s)) = true :=
      List.isPrefixOf_iff_prefix.mpr (List.prefix_append (p :: ps) s)
    rw [List.cons_append, replaceAll, replaceFrom, if_pos hstart]
    exact congrArg (replacement ++ ·) (replaceFrom_length_append ps s)

theorem replaceAll_cons (h : ¬ pattern <+: c :: s) :
    replaceAll pattern replacement (c :: s) = c :: replaceAll pattern replacement s :=
  replaceAll_cons_of_not_prefix _ _
    (Bool.eq_false_iff.mpr fun hp => h (List.isPrefixOf_iff_prefix.mp hp))

theorem replaceAll_of_not_infix (h : ¬ pattern <:+: s) : replaceAll pattern replacement s = s := by
  induction s with
  | nil => rfl
  | cons c s ih =>
    have hrest : ¬ pattern <:+: s := fun hi => h (hi.trans (List.suffix_cons c s).isInfix)
    rw [replaceAll_cons fun hp => h hp.isInfix, ih hrest]

/-- No occurrence goes across a character that is not in the pattern. -/
theorem prefix_append_cons_iff (hc : c ∉ pattern) (s s' : List Char) :
    pattern <+: s ++ c :: s' ↔ pattern <+: s := by
  constructor
  · intro h
    rcases List.prefix_or_prefix_of_prefix h (List.prefix_append s (c :: s')) with hp | ⟨rest, rfl⟩
    · exact hp
    · cases rest with
      | nil => simp
      | cons d rest =>
        rw [List.prefix_append_right_inj, List.cons_prefix_cons] at h
        exact absurd (by simp [h.1]) hc
  · exact fun h => h.trans (List.prefix_append s _)

theorem replaceAll_append_cons (hpattern : pattern ≠ []) (hc : c ∉ pattern) (s s' : List Char) :
    replaceAll pattern replacement (s ++ c :: s') =
      replaceAll pattern replacement s ++ c :: replaceAll pattern replacement s' := by
  induction scanned hpattern s with
  | nil =>
    have hnot : ¬ pattern <+: c :: s' := fun h =>
      hpattern (List.prefix_nil.mp ((prefix_append_cons_iff hc [] s').mp h))
    rw [List.nil_append, replaceAll_cons hnot, replaceAll_nil, List.nil_append]
  | @plain d s h _ ih =>
    have hnot : ¬ pattern <+: d :: (s ++ c :: s') :=
      mt (prefix_append_cons_iff hc (d :: s) s').mp h
    rw [List.cons_append, replaceAll_cons hnot, replaceAll_cons h, ih, List.cons_append]
  | @occurrence s _ ih =>
    rw [List.append_assoc, replaceAll_append_self hpattern, replaceAll_append_self hpattern, ih,
      List.append_assoc]

/-- What stands between two texts and has no character of the pattern stays. -/
theorem replaceAll_append_append (hpattern : pattern ≠ []) (hne : u ≠ [])
    (hu : ∀ c ∈ u, c ∉ pattern) (s s' : List Char) :
    replaceAll pattern replacement (s ++ u ++ s') =
      replaceAll pattern replacement s ++ u ++ replaceAll pattern replacement s' := by
  induction u generalizing s with
  | nil => exact absurd rfl hne
  | cons c u ih =>
    obtain ⟨hc, hrest⟩ := List.forall_mem_cons.mp hu
    rw [List.append_assoc, List.cons_append, replaceAll_append_cons hpattern hc]
    cases u with
    | nil => simp
    | cons d u =>
      have hu := ih (List.cons_ne_nil d u) hrest []
      rw [List.nil_append, replaceAll_nil, List.nil_append] at hu
      rw [hu]
      simp

section Ends

variable (hpattern : pattern ≠ []) (hreplacement : replacement ≠ [])

include hpattern hreplacement

theorem replaceAll_eq_nil_iff : replaceAll pattern replacement s = [] ↔ s = [] := by
  cases scanned hpattern s with
  | nil => simp
  | plain h => simp [replaceAll_cons h]
  | occurrence => simp [hpattern, hreplacement]

theorem head?_replaceAll (s : List Char) :
    (replaceAll pattern replacement s).head? = s.head? ∨
      (replaceAll pattern replacement s).head? = replacement.head? := by
  cases scanned hpattern s with
  | nil => exact Or.inl rfl
  | plain h => simp [replaceAll_cons h]
  | occurrence =>
    rw [replaceAll_append_self hpattern, List.head?_append_of_ne_nil _ hreplacement]
    exact Or.inr rfl

theorem getLast?_replaceAll (s : List Char) :
    (replaceAll pattern replacement s).getLast? = s.getLast? ∨
      (replaceAll pattern replacement s).getLast? = replacement.getLast? := by
  induction scanned hpattern s with
  | nil => exact Or.inl rfl
  | @plain c s h _ ih =>
    rw [replaceAll_cons h]
    by_cases hs : s = []
    · exact Or.inl (by rw [hs, replaceAll_nil])
    · have hrest : replaceAll pattern replacement s ≠ [] :=
        mt (replaceAll_eq_nil_iff hpattern hreplacement).mp hs
      rwa [List.getLast?_cons_of_ne_nil hrest, List.getLast?_cons_of_ne_nil hs]
  | @occurrence s _ ih =>
    rw [replaceAll_append_self hpattern]
    by_cases hs : s = []
    · exact Or.inr (by rw [hs, replaceAll_nil, List.append_nil])
    · have hrest : replaceAll pattern replacement s ≠ [] :=
        mt (replaceAll_eq_nil_iff hpattern hreplacement).mp hs
      rwa [List.getLast?_append_of_ne_nil _ hrest, List.getLast?_append_of_ne_nil _ hs]

end Ends

/-- A start of the new text that no replacement can begin in was the start of the old one. -/
theorem prefix_of_prefix_replaceAll (hpattern : pattern ≠ [])
    (hu : ∀ v, v <:+ u → v ≠ [] → ¬ v <+: replacement ∧ ¬ replacement <+: v)
    (h : u <+: replaceAll pattern replacement s) : u <+: s := by
  induction scanned hpattern s generalizing u with
  | nil => exact h
  | @plain c s hnot _ ih =>
    rw [replaceAll_cons hnot] at h
    cases u with
    | nil => exact List.nil_prefix
    | cons d u =>
      obtain ⟨rfl, hrest⟩ := List.cons_prefix_cons.mp h
      refine List.cons_prefix_cons.mpr ⟨rfl, ih (fun v hv => ?_) hrest⟩
      exact hu v (hv.trans (List.suffix_cons d u))
  | occurrence =>
    rw [replaceAll_append_self hpattern] at h
    by_cases hnil : u = []
    · rw [hnil]
      exact List.nil_prefix
    · obtain ⟨hinside, haround⟩ := hu u (List.suffix_refl u) hnil
      rcases List.prefix_or_prefix_of_prefix h (List.prefix_append replacement _) with hp | hp
      · exact absurd hp hinside
      · exact absurd hp haround

/-- Where the pattern occurs, its replacement does afterwards. -/
theorem infix_replaceAll (hpattern : pattern ≠ []) (h : pattern <:+: s) :
    replacement <:+: replaceAll pattern replacement s := by
  induction scanned hpattern s with
  | nil => exact absurd (List.infix_nil.mp h) hpattern
  | @plain c s hnot _ ih =>
    rw [replaceAll_cons hnot]
    rcases List.infix_cons_iff.mp h with hhere | hlater
    · exact absurd hhere hnot
    · exact (ih hlater).trans (List.suffix_cons c _).isInfix
  | occurrence =>
    rw [replaceAll_append_self hpattern]
    exact (List.prefix_append replacement _).isInfix

/-- No occurrence begins where its first character is not found. -/
theorem infix_of_infix_append (hpattern : pattern ≠ []) (hfirst : ∀ c ∈ pattern.head?, c ∉ u)
    (h : pattern <:+: u ++ s) : pattern <:+: s := by
  induction u with
  | nil => exact h
  | cons d u ih =>
    rcases List.infix_cons_iff.mp h with hhere | hlater
    · cases pattern with
      | nil => exact absurd rfl hpattern
      | cons p ps =>
        obtain ⟨rfl, -⟩ := List.cons_prefix_cons.mp hhere
        exact absurd List.mem_cons_self (hfirst p rfl)
    · exact ih (fun c hc hmem => hfirst c hc (List.mem_cons_of_mem d hmem)) hlater

/-- A replacement that can be no part of an occurrence leaves none. -/
theorem not_infix_replaceAll (hpattern : pattern ≠ [])
    (hfirst : ∀ c ∈ pattern.head?, c ∉ replacement)
    (hrest : ∀ v, v <:+ pattern → v ≠ [] → ¬ v <+: replacement ∧ ¬ replacement <+: v)
    (s : List Char) : ¬ pattern <:+: replaceAll pattern replacement s := by
  induction scanned hpattern s with
  | nil => exact fun h => hpattern (List.infix_nil.mp h)
  | @plain c s hnot _ ih =>
    intro h
    rw [replaceAll_cons hnot] at h
    rcases List.infix_cons_iff.mp h with hhere | hlater
    · -- An occurrence that begins with a character of the old text was there before.
      rw [← replaceAll_cons hnot] at hhere
      exact hnot (prefix_of_prefix_replaceAll hpattern hrest hhere)
    · exact ih hlater
  | occurrence _ ih =>
    rw [replaceAll_append_self hpattern]
    exact fun h => ih (infix_of_infix_append hpattern hfirst h)

end Text

end NativeStubs
