import Mathlib.Tactic.SplitIfs
import NativeStubs.Alias
import NativeStubs.ReservedWords
import NativeStubs.Text.Lines

/-! # Texts of one line

A text of one line has no line feed. Names stay on one line while they are lowered, joined and
escaped, and rows of one line each are the lines of the text that they make up.
-/

namespace NativeStubs

namespace Text

def OneLine (s : List Char) : Prop := '\n' ∉ s

instance (s : List Char) : Decidable (OneLine s) := inferInstanceAs (Decidable ('\n' ∉ s))

@[simp] theorem oneLine_nil : OneLine [] := List.not_mem_nil

@[simp] theorem oneLine_cons {c : Char} {s : List Char} :
    OneLine (c :: s) ↔ c ≠ '\n' ∧ OneLine s := by
  simp [OneLine, eq_comm]

@[simp] theorem oneLine_append {s t : List Char} : OneLine (s ++ t) ↔ OneLine s ∧ OneLine t := by
  simp [OneLine]

section Lines

variable {line s : List Char} {rows : List (List Char)}

theorem lines_append (h : OneLine line) (rest : List Char) :
    lines (line ++ '\n' :: rest) = line :: lines rest := by
  induction line with
  | nil => simp [lines]
  | cons c line ih =>
    obtain ⟨hc, hline⟩ := oneLine_cons.mp h
    simp [lines, hc, ih hline]

theorem lines_of_oneLine (h : OneLine line) : lines line = [line] := by
  induction line with
  | nil => rfl
  | cons c line ih =>
    obtain ⟨hc, hline⟩ := oneLine_cons.mp h
    simp [lines, hc, ih hline]

/-- Rows that each end in a line feed are the lines of their text, and nothing follows the last
one. -/
theorem lines_flatMap (h : ∀ row ∈ rows, OneLine row) :
    lines (rows.flatMap (· ++ ['\n'])) = rows ++ [[]] := by
  induction rows with
  | nil => rfl
  | cons row rest ih =>
    obtain ⟨hrow, hrest⟩ := List.forall_mem_cons.mp h
    rw [List.flatMap_cons, List.append_assoc, List.singleton_append, lines_append hrow, ih hrest,
      List.cons_append]

theorem oneLine_of_mem_lines (h : line ∈ lines s) : OneLine line := by
  induction s generalizing line with
  | nil =>
    obtain rfl := List.mem_singleton.mp h
    exact oneLine_nil
  | cons c s ih =>
    unfold lines at h
    split_ifs at h with hc
    · rcases List.mem_cons.mp h with rfl | h
      · exact oneLine_nil
      · exact ih h
    · cases hl : lines s with
      | nil => exact absurd hl (lines_ne_nil s)
      | cons first rest =>
        rw [hl] at h ih
        rcases List.mem_cons.mp h with rfl | h
        · exact oneLine_cons.mpr ⟨hc, ih List.mem_cons_self⟩
        · exact ih (List.mem_cons_of_mem _ h)

end Lines

section LetterCase

variable {c : Char} {s : List Char}

/-- Raising a letter leaves it or gives a capital letter. -/
theorem toUpper_eq_or (c : Char) : c.toUpper = c ∨ 65 ≤ c.toUpper.toNat ∧ c.toUpper.toNat ≤ 90 := by
  unfold Char.toUpper
  split_ifs with hc
  · right
    simp [UInt32.le_iff_toNat_le] at hc
    unfold Char.toNat
    simp
    omega
  · left
    rfl

theorem toLower_eq_or (c : Char) : c.toLower = c ∨ 97 ≤ c.toLower.toNat ∧ c.toLower.toNat ≤ 122 := by
  unfold Char.toLower
  split_ifs with hc
  · right
    simp [UInt32.le_iff_toNat_le] at hc
    unfold Char.toNat
    simp
    omega
  · left
    rfl

theorem toLower_ne_lineFeed (h : c ≠ '\n') : c.toLower ≠ '\n' := by
  rcases toLower_eq_or c with hsame | ⟨hlow, -⟩
  · rwa [hsame]
  · intro he
    rw [he] at hlow
    exact absurd hlow (by decide)

theorem first_add_offset_of_mem_caseRanges :
    ∀ r ∈ caseRanges, 90 < (r.first : Int) + r.offset := by
  decide +kernel

/-- Lower-case partners lie above the ASCII capital letters. -/
theorem CaseRange.lt_of_lower? {r : CaseRange} (hr : r ∈ caseRanges) {n m : Nat}
    (h : r.lower? n = some m) : 90 < m := by
  unfold CaseRange.lower? at h
  split_ifs at h with hn
  simp only [Bool.and_eq_true, decide_eq_true_eq] at hn
  have hoffset := first_add_offset_of_mem_caseRanges r hr
  obtain rfl := Option.some.inj h
  omega

/-- A number of no character stands for NUL, which is not the line feed either. -/
theorem ofNat_ne_lineFeed {n : Nat} (h : 10 < n) : Char.ofNat n ≠ '\n' := by
  intro he
  by_cases hn : n.isValidChar
  · rw [Char.ofNat, dif_pos hn] at he
    have hnat : n = 10 := congrArg Char.toNat he
    omega
  · rw [Char.ofNat, dif_neg hn] at he
    exact absurd (congrArg Char.toNat he) (by decide)

theorem lowerChar_ne_lineFeed (h : c ≠ '\n') : lowerChar c ≠ '\n' := by
  unfold lowerChar
  split_ifs with hascii
  · exact toLower_ne_lineFeed h
  · split
    · next n hn =>
      obtain ⟨r, hr, hlower⟩ := List.exists_of_findSome?_eq_some hn
      exact ofNat_ne_lineFeed (Nat.lt_trans (by decide) (CaseRange.lt_of_lower? hr hlower))
    · exact h

theorem oneLine_toLowerAfter (h : OneLine s) (before : Bool) : OneLine (toLowerAfter before s) := by
  induction s generalizing before with
  | nil => exact h
  | cons c s ih =>
    obtain ⟨hc, hs⟩ := oneLine_cons.mp h
    unfold toLowerAfter
    refine oneLine_append.mpr ⟨?_, ih hs _⟩
    split_ifs
    · simp
    · simp
    · simp
    · simpa using lowerChar_ne_lineFeed hc

end LetterCase

theorem mem_replaceFirst {pattern replacement s : List Char} {c : Char}
    (h : c ∈ replaceFirst pattern replacement s) : c ∈ s ∨ c ∈ replacement := by
  induction s with
  | nil => exact Or.inl h
  | cons d s ih =>
    unfold replaceFirst at h
    split_ifs at h
    · rcases List.mem_append.mp h with hreplacement | hrest
      · exact Or.inr hreplacement
      · exact Or.inl (List.mem_of_mem_drop hrest)
    · rcases List.mem_cons.mp h with rfl | hrest
      · exact Or.inl List.mem_cons_self
      · exact (ih hrest).imp_left (List.mem_cons_of_mem d)

end Text

open Text

namespace Identifier

variable {c : Char} {s : List Char} {name : String}

/-- Joining words adds no character but capital letters. -/
theorem mem_or_capital_of_mem_joinWords (h : c ∈ joinWords s) :
    c ∈ s ∨ 65 ≤ c.toNat ∧ c.toNat ≤ 90 := by
  fun_induction joinWords s with
  | case1 d s hlower ih =>
    rcases List.mem_cons.mp h with rfl | hrest
    · rcases toUpper_eq_or d with hsame | hcapital
      · exact Or.inl (by simp [hsame])
      · exact Or.inr hcapital
    · exact (ih hrest).imp_left fun hs => by simp [hs]
  | case2 d s hlower ih =>
    rcases List.mem_cons.mp h with rfl | hrest
    · exact Or.inl List.mem_cons_self
    · exact (ih hrest).imp_left (List.mem_cons_of_mem _)
  | case3 d s hd ih =>
    rcases List.mem_cons.mp h with rfl | hrest
    · exact Or.inl List.mem_cons_self
    · exact (ih hrest).imp_left (List.mem_cons_of_mem _)
  | case4 => exact Or.inl h

theorem mem_or_capital_of_mem_raiseFirst (h : c ∈ raiseFirst s) :
    c ∈ s ∨ 65 ≤ c.toNat ∧ c.toNat ≤ 90 := by
  cases s with
  | nil => exact Or.inl h
  | cons d s =>
    rcases List.mem_cons.mp h with rfl | hrest
    · rcases toUpper_eq_or d with hsame | hcapital
      · exact Or.inl (by simp [hsame])
      · exact Or.inr hcapital
    · exact Or.inl (List.mem_cons_of_mem d hrest)

/-- Nor does an identifier, once the name is marked. -/
theorem mem_or_capital_of_mem_ofLower (h : c ∈ ofLower s) :
    c ∈ markHex s ∨ 65 ≤ c.toNat ∧ c.toNat ≤ 90 := by
  rcases mem_or_capital_of_mem_raiseFirst h with hwords | hcapital
  · exact mem_or_capital_of_mem_joinWords hwords
  · exact Or.inr hcapital

theorem oneLine_ofName (h : OneLine name.toList) : OneLine (ofName name).toList := by
  rw [ofName, String.toList_ofList]
  intro hmem
  rcases mem_or_capital_of_mem_ofLower hmem with hmarked | ⟨hlow, -⟩
  · rcases mem_replaceFirst hmarked with hs | hmark
    · exact oneLine_toLowerAfter h false hs
    · simp at hmark
  · exact absurd hlow (by decide)

end Identifier

theorem ReservedWords.oneLine_escape (reserved : ReservedWords) {name : String}
    (h : OneLine name.toList) : OneLine (reserved.escape name).toList := by
  unfold escape
  split_ifs
  · rw [String.toList_append]
    exact oneLine_append.mpr ⟨by simp, h⟩
  · exact h

end NativeStubs
