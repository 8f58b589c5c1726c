import Mathlib.Data.List.Nodup
import NativeStubs.Proofs.Layout

/-! # Escaped parameter names

A reserved parameter name is escaped once, by an underscore before it. What comes out may be the
name of another parameter, or a reserved word again, and then the parameters of a declaration share
a name or have a reserved one. There is no other way for distinct names to end up so.
-/

namespace NativeStubs

namespace ReservedWords

variable {reserved : ReservedWords} {a b word : String} {names : List String}

theorem escape_of_mem (h : word ∈ reserved.words) : reserved.escape word = "_" ++ word :=
  escape_of_contains (decide_eq_true h)

theorem escape_of_notMem (h : word ∉ reserved.words) : reserved.escape word = word :=
  escape_of_not_contains (decide_eq_false h)

/-- A reserved name whose escaped form is a name that stays as it is. -/
def EscapesTo (reserved : ReservedWords) (a b : String) : Prop :=
  a ∈ reserved.words ∧ b = "_" ++ a ∧ b ∉ reserved.words

/-- Two names of one sort, escaped or not, stay apart. -/
theorem escape_eq_escape_iff :
    reserved.escape a = reserved.escape b ↔
      a = b ∨ reserved.EscapesTo a b ∨ reserved.EscapesTo b a := by
  constructor
  · intro h
    by_cases ha : a ∈ reserved.words <;> by_cases hb : b ∈ reserved.words
    · rw [escape_of_mem ha, escape_of_mem hb] at h
      exact Or.inl ((String.append_right_inj "_").mp h)
    · rw [escape_of_mem ha, escape_of_notMem hb] at h
      exact Or.inr (Or.inl ⟨ha, h.symm, hb⟩)
    · rw [escape_of_notMem ha, escape_of_mem hb] at h
      exact Or.inr (Or.inr ⟨hb, h, ha⟩)
    · rw [escape_of_notMem ha, escape_of_notMem hb] at h
      exact Or.inl h
  · rintro (rfl | ⟨ha, rfl, hb⟩ | ⟨hb, rfl, ha⟩)
    · rfl
    · rw [escape_of_mem ha, escape_of_notMem hb]
    · rw [escape_of_mem hb, escape_of_notMem ha]

theorem append_ne_self (word : String) : "_" ++ word ≠ word := by
  intro h
  have hlength := congrArg String.length h
  simp at hlength

/-- Distinct names stay distinct exactly if none of them is escaped to another one. -/
theorem nodup_map_escape_iff (h : names.Nodup) :
    (names.map reserved.escape).Nodup ↔
      ∀ word ∈ names, word ∈ reserved.words → "_" ++ word ∈ names →
        "_" ++ word ∈ reserved.words := by
  rw [List.nodup_map_iff_inj_on h]
  constructor
  · intro hinj word hword hreserved hescaped
    by_contra hkept
    have hsame := hinj _ hescaped word hword
      (escape_eq_escape_iff.mpr (Or.inr (Or.inr ⟨hreserved, rfl, hkept⟩)))
    exact append_ne_self word hsame
  · intro hescaped a ha b hb hab
    rcases escape_eq_escape_iff.mp hab with hab | ⟨hreserved, rfl, hkept⟩ | ⟨hreserved, rfl, hkept⟩
    · exact hab
    · exact absurd (hescaped a ha hreserved hb) hkept
    · exact absurd (hescaped b hb hreserved ha) hkept

theorem escape_notMem_iff :
    reserved.escape word ∉ reserved.words ↔
      (word ∈ reserved.words → "_" ++ word ∉ reserved.words) := by
  by_cases hword : word ∈ reserved.words
  · rw [escape_of_mem hword]
    exact ⟨fun h _ => h, fun h => h hword⟩
  · rw [escape_of_notMem hword]
    exact iff_of_true hword fun h => absurd h hword

end ReservedWords

namespace Signature

open Declaration Text

variable (reserved : ReservedWords) (s : Signature)

/-- The parameters that a signature shows, reserved names escaped. -/
def shown : List (String × TypeName) :=
  s.params.map fun (name, type) => (reserved.escape name, type)

theorem paramLines_eq_unlines :
    s.paramLines reserved = unlines ((s.shown reserved).map argumentRow) := by
  rw [paramLines, shown, unlines, List.map_map, List.map_map]
  rfl

theorem functionLine_eq_functionRow :
    s.functionLine reserved = functionRow s.identifier (s.shown reserved) := by
  rw [functionLine, functionRow, shown, List.map_map]
  rfl

theorem names_shown :
    (s.shown reserved).map Prod.fst = (s.params.map Prod.fst).map reserved.escape := by
  rw [shown, List.map_map, List.map_map]
  rfl

/-- The parameter lines and the function line show the same names: those of the parameters in call
order, reserved ones escaped. Where the parameters have distinct names, so do those shown, unless a
reserved name comes with its escaped form as a parameter that is not reserved; and no name shown is
reserved, unless the escaped form of a reserved name is reserved too. -/
theorem shownNames_usable_iff (h : (s.params.map Prod.fst).Nodup) :
    let names := s.params.map Prod.fst
    let shownNames := (s.shown reserved).map Prod.fst
    s.paramLines reserved = unlines ((s.shown reserved).map argumentRow) ∧
      s.functionLine reserved = functionRow s.identifier (s.shown reserved) ∧
      shownNames = names.map reserved.escape ∧
      (shownNames.Nodup ↔ ∀ word ∈ names, word ∈ reserved.words → "_" ++ word ∈ names →
        "_" ++ word ∈ reserved.words) ∧
      ((∀ name ∈ shownNames, name ∉ reserved.words) ↔
        ∀ word ∈ names, word ∈ reserved.words → "_" ++ word ∉ reserved.words) := by
  intro names shownNames
  have hnames : shownNames = names.map reserved.escape := s.names_shown reserved
  refine ⟨s.paramLines_eq_unlines reserved, s.functionLine_eq_functionRow reserved, hnames, ?_, ?_⟩
  · rw [hnames]
    exact ReservedWords.nodup_map_escape_iff h
  · rw [hnames, List.forall_mem_map]
    exact forall₂_congr fun word _ => ReservedWords.escape_notMem_iff

/-- A signature with a keyword among its parameters. -/
def spanSignature : Signature := ⟨"GetSpan", [.void], [("start", .vector3), ("end", .vector3)]⟩

theorem shownNames_usable_iff_keywords :
    (spanSignature.params.map Prod.fst).Nodup ∧
      spanSignature.functionLine ⟨ReservedWords.keywords⟩ = "function GetSpan(start, _end) end" ∧
      ((spanSignature.shown ⟨ReservedWords.keywords⟩).map Prod.fst).Nodup ∧
      ∀ name ∈ (spanSignature.shown ⟨ReservedWords.keywords⟩).map Prod.fst,
        name ∉ ReservedWords.keywords := by
  have hnodup : (spanSignature.params.map Prod.fst).Nodup := by decide
  obtain ⟨-, hline, -, hdistinct, hunreserved⟩ :=
    shownNames_usable_iff ⟨ReservedWords.keywords⟩ spanSignature hnodup
  refine ⟨hnodup, hline.trans ?_, hdistinct.mpr ?_, hunreserved.mpr ?_⟩ <;> decide +kernel

/-- Words with the escaped form of one of them. -/
def nestedWords : ReservedWords := ⟨["end", "_end", "for"]⟩

/-- A signature with the escaped form of one of its parameters. -/
def loopSignature : Signature :=
  ⟨"GetLoop", [.void], [("end", .number), ("for", .number), ("_for", .number)]⟩

/-- The names shown are not distinct, and one of them is reserved. -/
theorem shownNames_clash :
    (loopSignature.params.map Prod.fst).Nodup ∧
      loopSignature.functionLine nestedWords = "function GetLoop(_end, _for, _for) end" ∧
      ¬ ((loopSignature.shown nestedWords).map Prod.fst).Nodup ∧
      ¬ ∀ name ∈ (loopSignature.shown nestedWords).map Prod.fst, name ∉ nestedWords.words := by
  decide +kernel

end Signature

end NativeStubs
