import Mathlib
import NativeStubs.Generator
import NativeStubs.Proofs.OneLine

/-! # Names that share an identifier

An identifier can be read back. Its capital letters are where an underscore was dropped, the mark
before the first `0x` can be taken out, and only raising the first letter loses something: whether
there was an underscore before it. So two names share an identifier exactly if their lower-case
forms are equal, or one is the other with an underscore before its first letter or before `0x`.
-/

namespace NativeStubs

namespace Text

variable {c : Char} {s t : List Char}

/-- A text without ASCII capital letters. -/
def NoCapitals (s : List Char) : Prop := ∀ c ∈ s, c.isUpper = false

@[simp] theorem noCapitals_nil : NoCapitals [] := by simp [NoCapitals]

@[simp] theorem noCapitals_cons : NoCapitals (c :: s) ↔ c.isUpper = false ∧ NoCapitals s :=
  List.forall_mem_cons

@[simp] theorem noCapitals_append : NoCapitals (s ++ t) ↔ NoCapitals s ∧ NoCapitals t :=
  List.forall_mem_append

theorem isUpper_eq_false_of_lt (h : 90 < c.toNat) : c.isUpper = false := by
  have hval : ¬ c.val ≤ 90 := by
    rw [UInt32.le_iff_toNat_le]
    exact Nat.not_le.mpr h
  simp [Char.isUpper, hval]

theorem isUpper_ofNat {n : Nat} (h : 90 < n) : (Char.ofNat n).isUpper = false := by
  by_cases hn : n.isValidChar
  · refine isUpper_eq_false_of_lt ?_
    rw [Char.toNat_ofNat, if_pos hn]
    exact h
  · rw [Char.ofNat, dif_neg hn]
    rfl

theorem isUpper_lowerChar (c : Char) : (lowerChar c).isUpper = false := by
  unfold lowerChar
  split_ifs with hascii
  · exact Char.isUpper_toLower_eq_false c
  · split
    · next n hn =>
      obtain ⟨r, hr, hlower⟩ := List.exists_of_findSome?_eq_some hn
      exact isUpper_ofNat (CaseRange.lt_of_lower? hr hlower)
    · exact isUpper_eq_false_of_lt (by omega)

theorem noCapitals_toLowerAfter (before : Bool) (s : List Char) :
    NoCapitals (toLowerAfter before s) := by
  induction s generalizing before with
  | nil => exact noCapitals_nil
  | cons c s ih =>
    unfold toLowerAfter
    refine noCapitals_append.mpr ⟨?_, ih _⟩
    split_ifs
    · simp
    · simp
    · simp
    · simpa using isUpper_lowerChar c

theorem noCapitals_toLower (s : List Char) : NoCapitals (toLower s) :=
  noCapitals_toLowerAfter false s

theorem toLower_eq_nil_iff : toLower s = [] ↔ s = [] := by
  constructor
  · intro h
    cases s with
    | nil => rfl
    | cons c s =>
      obtain ⟨hlower, -⟩ := List.append_eq_nil_iff.mp h
      split_ifs at hlower
  · rintro rfl
    rfl

end Text

open Text

namespace Identifier

variable {c : Char} {s t : List Char} {a b : String}

section Words

/-- Lowers each capital letter and puts an underscore before it. -/
def splitWords : List Char → List Char
  | [] => []
  | c :: s => if c.isUpper then '_' :: c.toLower :: splitWords s else c :: splitWords s

theorem splitWords_cons_of_isUpper (h : c.isUpper = true) (s : List Char) :
    splitWords (c :: s) = '_' :: c.toLower :: splitWords s := by
  simp [splitWords, h]

theorem splitWords_cons_of_not_isUpper (h : c.isUpper = false) (s : List Char) :
    splitWords (c :: s) = c :: splitWords s := by
  simp [splitWords, h]

/-- A raised letter is split off with its underscore. -/
theorem splitWords_toUpper_cons (h : c.isLower = true) (s : List Char) :
    splitWords (c.toUpper :: s) = '_' :: c :: splitWords s := by
  have hupper : c.toUpper.isUpper = true := by simp [Char.isAlpha, h]
  rw [splitWords_cons_of_isUpper hupper, Char.toLower_toUpper_eq_toLower,
    Char.toLower_eq_of_not_isUpper (Char.not_isUpper_of_isLower h)]

/-- Joining words loses nothing of a text without capital letters. -/
theorem splitWords_joinWords (h : NoCapitals s) : splitWords (joinWords s) = s := by
  fun_induction joinWords s with
  | case1 c s hlower ih =>
    obtain ⟨-, hc⟩ := noCapitals_cons.mp h
    rw [splitWords_toUpper_cons hlower, ih (noCapitals_cons.mp hc).2]
  | case2 c s hlower ih =>
    rw [splitWords_cons_of_not_isUpper rfl, ih (noCapitals_cons.mp h).2]
  | case3 c s hc ih =>
    obtain ⟨hupper, hs⟩ := noCapitals_cons.mp h
    rw [splitWords_cons_of_not_isUpper hupper, ih hs]
  | case4 => rfl

/-- A text with an underscore before its first letter, if it starts with one. -/
def separateFirst : List Char → List Char
  | [] => []
  | c :: s => if c.isLower then '_' :: c :: s else c :: s

theorem joinWords_cons_of_ne (h : c ≠ '_') (s : List Char) :
    joinWords (c :: s) = c :: joinWords s := by
  rw [joinWords]
  rintro d rest rfl
  exact absurd rfl h

theorem joinWords_underscore_cons (h : c.isLower = true) (s : List Char) :
    joinWords ('_' :: c :: s) = c.toUpper :: joinWords s := by
  rw [joinWords, if_pos h]

theorem ne_underscore_of_isLower (h : c.isLower = true) : c ≠ '_' := by
  rintro rfl
  cases h

/-- A first character that is no letter stays as it is, and a letter after a first underscore has
been raised already. -/
theorem raiseFirst_joinWords_of_not_isLower (h : ¬ c.isLower = true) (s : List Char) :
    raiseFirst (joinWords (c :: s)) = joinWords (c :: s) := by
  by_cases hc : c = '_'
  · subst hc
    cases s with
    | nil => rfl
    | cons d s =>
      by_cases hd : d.isLower = true
      · rw [joinWords_underscore_cons hd, raiseFirst, Char.toUpper_toUpper_eq_toUpper]
      · rw [joinWords, if_neg hd]
        rfl
  · rw [joinWords_cons_of_ne hc, raiseFirst, Char.toUpper_eq_of_not_isLower h]

/-- To raise the first letter is to join it to an underscore before it. -/
theorem raiseFirst_joinWords_eq (s : List Char) :
    raiseFirst (joinWords s) = joinWords (separateFirst s) := by
  cases s with
  | nil => rfl
  | cons c s =>
    by_cases h : c.isLower = true
    · rw [separateFirst, if_pos h, joinWords_underscore_cons h,
        joinWords_cons_of_ne (ne_underscore_of_isLower h), raiseFirst]
    · rw [separateFirst, if_neg h, raiseFirst_joinWords_of_not_isLower h]

theorem noCapitals_separateFirst (h : NoCapitals s) : NoCapitals (separateFirst s) := by
  cases s with
  | nil => exact h
  | cons c s =>
    rw [separateFirst]
    split_ifs
    · exact noCapitals_cons.mpr ⟨rfl, h⟩
    · exact h

/-- Beyond that underscore nothing is lost. -/
theorem splitWords_raiseFirst_joinWords (h : NoCapitals s) :
    splitWords (raiseFirst (joinWords s)) = separateFirst s := by
  rw [raiseFirst_joinWords_eq, splitWords_joinWords (noCapitals_separateFirst h)]

/-- Raising the first letter makes two texts equal only if they are so with an underscore before
it. -/
theorem raiseFirst_joinWords_inj (hs : NoCapitals s) (ht : NoCapitals t) :
    raiseFirst (joinWords s) = raiseFirst (joinWords t) ↔ separateFirst s = separateFirst t := by
  constructor
  · intro h
    rw [← splitWords_raiseFirst_joinWords hs, h, splitWords_raiseFirst_joinWords ht]
  · intro h
    rw [raiseFirst_joinWords_eq, h, ← raiseFirst_joinWords_eq]

def StartsLower (s : List Char) : Prop := s.head?.any Char.isLower = true

theorem separateFirst_of_startsLower (h : StartsLower s) : separateFirst s = '_' :: s := by
  cases s with
  | nil => cases h
  | cons c s => exact if_pos h

theorem separateFirst_of_not_startsLower (h : ¬ StartsLower s) : separateFirst s = s := by
  cases s with
  | nil => rfl
  | cons c s => exact if_neg h

theorem separateFirst_underscore_cons (s : List Char) : separateFirst ('_' :: s) = '_' :: s := rfl

theorem separateFirst_inj :
    separateFirst s = separateFirst t ↔
      s = t ∨ (s = '_' :: t ∧ StartsLower t) ∨ (t = '_' :: s ∧ StartsLower s) := by
  constructor
  · intro h
    by_cases hs : StartsLower s <;> by_cases ht : StartsLower t
    · rw [separateFirst_of_startsLower hs, separateFirst_of_startsLower ht] at h
      exact Or.inl (List.cons.inj h).2
    · rw [separateFirst_of_startsLower hs, separateFirst_of_not_startsLower ht] at h
      exact Or.inr (Or.inr ⟨h.symm, hs⟩)
    · rw [separateFirst_of_not_startsLower hs, separateFirst_of_startsLower ht] at h
      exact Or.inr (Or.inl ⟨h, ht⟩)
    · rw [separateFirst_of_not_startsLower hs, separateFirst_of_not_startsLower ht] at h
      exact Or.inl h
  · rintro (rfl | ⟨rfl, ht⟩ | ⟨rfl, hs⟩)
    · rfl
    · rw [separateFirst_underscore_cons, separateFirst_of_startsLower ht]
    · rw [separateFirst_underscore_cons, separateFirst_of_startsLower hs]

end Words

section Hexadecimal

def StartsHex (s : List Char) : Prop := ['0', 'x'] <+: s

theorem markHex_of_startsHex (h : StartsHex s) : markHex s = 'n' :: '_' :: s := by
  obtain ⟨r, rfl⟩ := h
  rfl

theorem markHex_cons_of_not_startsHex (h : ¬ StartsHex (c :: s)) :
    markHex (c :: s) = c :: markHex s := by
  refine replaceFirst_cons_of_not_prefix _ _ ?_
  rw [Bool.eq_false_iff, ne_eq, List.isPrefixOf_iff_prefix]
  exact h

theorem noCapitals_markHex (h : NoCapitals s) : NoCapitals (markHex s) := by
  intro c hc
  rcases mem_replaceFirst hc with hs | hmark
  · exact h c hs
  · have hmark' : NoCapitals ['n', '_', '0', 'x'] := by simp
    exact hmark' c hmark

theorem startsHex_cons_iff : StartsHex (c :: s) ↔ c = '0' ∧ s.head? = some 'x' := by
  cases s with
  | nil => simp [StartsHex, List.cons_prefix_cons]
  | cons d s => simp [StartsHex, List.cons_prefix_cons, eq_comm]

theorem head?_markHex_of_not_startsHex (h : ¬ StartsHex s) : (markHex s).head? = s.head? := by
  cases s with
  | nil => rfl
  | cons c s => rw [markHex_cons_of_not_startsHex h, List.head?_cons, List.head?_cons]

/-- A mark stands before the first `0x`, so none is at the start. -/
theorem not_startsHex_markHex (s : List Char) : ¬ StartsHex (markHex s) := by
  by_cases hs : StartsHex s
  · rw [markHex_of_startsHex hs, startsHex_cons_iff]
    exact fun h => absurd h.1 (by decide)
  · cases s with
    | nil => exact hs
    | cons c s =>
      rw [markHex_cons_of_not_startsHex hs, startsHex_cons_iff]
      rintro ⟨rfl, hx⟩
      by_cases hmark : StartsHex s
      · rw [markHex_of_startsHex hmark] at hx
        cases hx
      · rw [head?_markHex_of_not_startsHex hmark] at hx
        exact hs (startsHex_cons_iff.mpr ⟨rfl, hx⟩)

/-- What looks like a mark in front of `0x` is one. -/
theorem markHex_ne_mark (hs : ¬ StartsHex s) (ht : StartsHex t) : markHex s ≠ 'n' :: '_' :: t := by
  intro h
  cases s with
  | nil => cases h
  | cons c s =>
    rw [markHex_cons_of_not_startsHex hs] at h
    obtain ⟨-, hrest⟩ := List.cons.inj h
    by_cases hmark : StartsHex s
    · rw [markHex_of_startsHex hmark] at hrest
      exact absurd (List.cons.inj hrest).1 (by decide)
    · cases s with
      | nil => cases hrest
      | cons d s =>
        rw [markHex_cons_of_not_startsHex hmark] at hrest
        have hafter : markHex s = t := (List.cons.inj hrest).2
        exact not_startsHex_markHex s (hafter ▸ ht)

/-- The mark can be taken out again, since it stands before the first `0x` of the marked text. -/
theorem markHex_injective : Function.Injective markHex := by
  intro s t h
  -- Of two texts with equal marked forms, both or neither start with `0x`.
  induction s generalizing t with
  | nil =>
    by_cases ht : StartsHex t
    · rw [markHex_of_startsHex ht] at h
      cases h
    · cases t with
      | nil => rfl
      | cons d t =>
        rw [markHex_cons_of_not_startsHex ht] at h
        cases h
  | cons c s ih =>
    by_cases hs : StartsHex (c :: s) <;> by_cases ht : StartsHex t
    · rw [markHex_of_startsHex hs, markHex_of_startsHex ht] at h
      exact (List.cons.inj (List.cons.inj h).2).2
    · rw [markHex_of_startsHex hs] at h
      exact absurd h.symm (markHex_ne_mark ht hs)
    · rw [markHex_of_startsHex ht] at h
      exact absurd h (markHex_ne_mark hs ht)
    · rw [markHex_cons_of_not_startsHex hs] at h
      cases t with
      | nil => cases h
      | cons d t =>
        rw [markHex_cons_of_not_startsHex ht] at h
        obtain ⟨rfl, hrest⟩ := List.cons.inj h
        rw [ih hrest]

theorem markHex_underscore_cons (s : List Char) : markHex ('_' :: s) = '_' :: markHex s := by
  refine markHex_cons_of_not_startsHex fun h => ?_
  exact absurd (startsHex_cons_iff.mp h).1 (by decide)

theorem startsLower_markHex_iff : StartsLower (markHex s) ↔ StartsLower s ∨ StartsHex s := by
  by_cases hs : StartsHex s
  · rw [markHex_of_startsHex hs]
    exact iff_of_true rfl (Or.inr hs)
  · rw [or_iff_left hs, StartsLower, StartsLower, head?_markHex_of_not_startsHex hs]

end Hexadecimal

/-- The first text is the second one with an underscore before it that an identifier leaves out. -/
def Underscored (s t : List Char) : Prop := s = '_' :: t ∧ (StartsLower t ∨ StartsHex t)

theorem markHex_eq_underscore_cons_iff :
    markHex s = '_' :: markHex t ∧ StartsLower (markHex t) ↔ Underscored s t := by
  rw [← markHex_underscore_cons, markHex_injective.eq_iff, startsLower_markHex_iff, Underscored]

theorem ofLower_eq_ofLower_iff (hs : NoCapitals s) (ht : NoCapitals t) :
    ofLower s = ofLower t ↔ s = t ∨ Underscored s t ∨ Underscored t s := by
  rw [ofLower, ofLower, raiseFirst_joinWords_inj (noCapitals_markHex hs) (noCapitals_markHex ht),
    separateFirst_inj, markHex_injective.eq_iff, markHex_eq_underscore_cons_iff,
    markHex_eq_underscore_cons_iff]

/-- Two names that differ in the case of letters and in an underscore in front, if at all. -/
def SameName (a b : String) : Prop :=
  toLower a.toList = toLower b.toList ∨ Underscored (toLower a.toList) (toLower b.toList) ∨
    Underscored (toLower b.toList) (toLower a.toList)

theorem ofName_eq_ofName_iff (a b : String) : ofName a = ofName b ↔ SameName a b := by
  rw [ofName, ofName, String.ofList_inj,
    ofLower_eq_ofLower_iff (noCapitals_toLower _) (noCapitals_toLower _), SameName]

/-- Only the empty name has the empty identifier. -/
theorem ofName_eq_empty_iff : ofName a = "" ↔ a = "" := by
  have hempty : ofName "" = "" := by decide
  constructor
  · intro h
    rcases (ofName_eq_ofName_iff a "").mp (h.trans hempty.symm) with hsame | ⟨-, hstart⟩ | ⟨h, -⟩
    · exact String.toList_eq_nil_iff.mp (toLower_eq_nil_iff.mp hsame)
    · rcases hstart with hlower | hhex
      · cases hlower
      · exact absurd (List.prefix_nil.mp hhex) (List.cons_ne_nil _ _)
    · cases h
  · rintro rfl
    exact hempty

end Identifier

/-- The name that a native is declared from: its own, or its key if that is absent or empty. -/
def Native.givenName? (n : Native) (key : String) : Option String :=
  (n.name.bind nonempty?).or (nonempty? key)

theorem Generator.identifier?_eq_map (n : Native) (key : String) :
    identifier? n key = (n.givenName? key).map Identifier.ofName := rfl

theorem Alias.notMem_identifiers_iff {canonical name : String} {names : List String}
    (hname : name ∈ names) (hhash : ¬ isHash name) :
    Identifier.ofName name ∉ identifiers canonical names ↔ canonical = Identifier.ofName name := by
  rw [mem_identifiers_iff, not_and_or, not_not, or_iff_left, eq_comm]
  exact not_not.mpr ⟨name, hname, hhash, rfl⟩

namespace Identifier

/-- Two names share an identifier exactly if they differ in nothing but the case of letters and an
underscore in front. Only then does one of two natives overwrite the other, and only then is an
earlier name of a native, other than a hash, left out as the name of today. -/
theorem shares_identifier_iff (a b : String) :
    (∀ key key', ofNames? (some a) key = ofNames? (some b) key' ↔ SameName a b) ∧
      (∀ n n' key key', Native.givenName? n key = some a → Native.givenName? n' key' = some b →
        (Generator.identifier? n key = Generator.identifier? n' key' ↔ SameName a b)) ∧
      ∀ names, b ∈ names → ¬ Alias.isHash b →
        (ofName b ∉ Alias.identifiers (ofName a) names ↔ SameName a b) := by
  refine ⟨fun key key' => ?_, fun n n' key key' ha hb => ?_, fun names hb hhash => ?_⟩
  · rw [ofNames?_some, ofNames?_some, Option.some_inj, ofName_eq_ofName_iff]
  · rw [Generator.identifier?_eq_map, Generator.identifier?_eq_map, ha, hb, Option.map_some,
      Option.map_some, Option.some_inj, ofName_eq_ofName_iff]
  · rw [Alias.notMem_identifiers_iff hb hhash, ofName_eq_ofName_iff]

/-- A native called by its hash with an underscore in front, and one that has only its key. -/
theorem shares_identifier_iff_hash :
    Native.givenName? { name := some "_0xA4D1C9D5", params := [] } "" = some "_0xA4D1C9D5" ∧
      Native.givenName? { params := [] } "0xa4d1c9d5" = some "0xa4d1c9d5" ∧
      Generator.identifier? { name := some "_0xA4D1C9D5", params := [] } "" =
        Generator.identifier? { params := [] } "0xa4d1c9d5" := by
  have hname : Native.givenName? { name := some "_0xA4D1C9D5", params := [] } "" =
      some "_0xA4D1C9D5" := rfl
  have hkey : Native.givenName? { params := [] } "0xa4d1c9d5" = some "0xa4d1c9d5" := rfl
  obtain ⟨-, hnatives, -⟩ := shares_identifier_iff "_0xA4D1C9D5" "0xa4d1c9d5"
  have hsame : SameName "_0xA4D1C9D5" "0xa4d1c9d5" :=
    Or.inr (Or.inl ⟨by decide, Or.inr ⟨_, rfl⟩⟩)
  exact ⟨hname, hkey, (hnatives _ _ _ _ hname hkey).mpr hsame⟩

/-- One underscore before a letter is left out, but not a second one nor one before a digit. -/
example : ofName "_GET_PED" = ofName "Get_Ped" ∧ ofName "__GET_PED" ≠ ofName "GET_PED" ∧
    ofName "_1" ≠ ofName "1" := by
  decide +kernel

end Identifier

end NativeStubs
