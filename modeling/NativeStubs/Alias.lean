import NativeStubs.Identifier

/-! # Aliases

A native that was renamed stays reachable under its earlier names. Each of them is bound to the
identifier of today once, unless it is a bare hash, which starts with `0`, or normalizes to that
identifier.
-/

namespace NativeStubs

namespace Alias

def isHash (name : String) : Bool := name.toList.head? == some '0'

/-- The identifiers to bind, in order. Those in `seen` have been bound before. -/
def identifiersAfter (canonical : String) : (seen : List String) → List String → List String
  | _, [] => []
  | seen, name :: rest =>
    let former := Identifier.ofName name
    if isHash name ∨ former = canonical ∨ former ∈ seen then identifiersAfter canonical seen rest
    else former :: identifiersAfter canonical (former :: seen) rest

def identifiers (canonical : String) (names : List String) : List String :=
  identifiersAfter canonical [] names

/-- The lines that bind one identifier. -/
def bindingText (canonical former : String) : String :=
  "\n---@deprecated\n" ++ former ++ " = " ++ canonical ++ "\n"

def block? (canonical : String) (names : List String) : Option String :=
  match identifiers canonical names with
  | [] => none
  | aliases => some (String.join (aliases.map (bindingText canonical)))

/-- What is bound: every identifier of an earlier name that is no hash, but for the identifier of
today and for those bound before. -/
theorem mem_identifiersAfter_iff {canonical former : String} {seen names : List String} :
    former ∈ identifiersAfter canonical seen names ↔
      former ≠ canonical ∧ former ∉ seen ∧
        ∃ name ∈ names, ¬ isHash name ∧ Identifier.ofName name = former := by
  induction names generalizing seen with
  | nil => simp [identifiersAfter]
  | cons name rest ih =>
    unfold identifiersAfter
    dsimp only
    split
    · next hskip =>
      -- The name that is skipped has no identifier to bind that is not excluded already.
      have hname (hcanonical : former ≠ canonical) (hseen : former ∉ seen) :
          ¬ (¬ isHash name ∧ Identifier.ofName name = former) := by
        rintro ⟨hhash, rfl⟩
        exact hskip.elim hhash (·.elim hcanonical hseen)
      simp only [ih, List.mem_cons, exists_eq_or_imp]
      refine and_congr_right fun hcanonical => and_congr_right fun hseen => ?_
      exact (or_iff_right (hname hcanonical hseen)).symm
    · next hbind =>
      obtain ⟨hhash, hcanonical, hseen⟩ := by simpa only [not_or] using hbind
      simp only [List.mem_cons, ih, exists_eq_or_imp, not_or]
      constructor
      · rintro (rfl | ⟨hc, ⟨-, hs⟩, hrest⟩)
        · exact ⟨hcanonical, hseen, Or.inl ⟨hhash, rfl⟩⟩
        · exact ⟨hc, hs, Or.inr hrest⟩
      · rintro ⟨hc, hs, ⟨-, rfl⟩ | hrest⟩
        · exact Or.inl rfl
        · by_cases he : former = Identifier.ofName name
          · exact Or.inl he
          · exact Or.inr ⟨hc, ⟨he, hs⟩, hrest⟩

theorem mem_identifiers_iff {canonical former : String} {names : List String} :
    former ∈ identifiers canonical names ↔
      former ≠ canonical ∧ ∃ name ∈ names, ¬ isHash name ∧ Identifier.ofName name = former := by
  simp [identifiers, mem_identifiersAfter_iff]

end Alias

end NativeStubs
