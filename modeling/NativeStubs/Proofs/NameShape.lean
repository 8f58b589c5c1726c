import NativeStubs.Proofs.Collision

/-! # The shape of identifiers

The identifier of a name that is a word of letters, digits and underscores is such a word again. It
does not start with a digit or a lower-case letter, it has no lower-case letter after an underscore,
and the first `0x` in it has its mark. So it is never a keyword, and it needs no escaping.
-/

namespace NativeStubs

namespace Text

variable {c : Char} {s : List Char}

/-- An ASCII letter, a digit or an underscore. -/
def isWordChar (c : Char) : Bool := c.isAlphanum || c == '_'

def IsWord (s : List Char) : Prop := ∀ c ∈ s, isWordChar c = true

instance (s : List Char) : Decidable (IsWord s) := List.decidableBAll _ s

theorem IsWord.cons (h : IsWord (c :: s)) : isWordChar c = true ∧ IsWord s :=
  List.forall_mem_cons.mp h

theorem isAlpha_of_isUpper (h : c.isUpper = true) : c.isAlpha = true := by
  rw [Char.isAlpha, h, Bool.true_or]

theorem isAlpha_of_isLower (h : c.isLower = true) : c.isAlpha = true := by
  rw [Char.isAlpha, h, Bool.or_true]

theorem isDigit_eq_false_of_isAlpha (h : c.isAlpha = true) : c.isDigit = false := by
  rw [Bool.eq_false_iff]
  intro hdigit
  simp only [Char.isAlpha, Char.isUpper, Char.isLower, Char.isDigit, Bool.or_eq_true,
    Bool.and_eq_true, decide_eq_true_eq, UInt32.le_iff_toNat_le, ge_iff_le] at h hdigit
  have h9 : '9'.val.toNat = 57 := rfl
  have hA : 'A'.val.toNat = 65 := rfl
  have ha : 'a'.val.toNat = 97 := rfl
  omega

theorem isDigit_toUpper_eq_false (h : c.isDigit = false) : c.toUpper.isDigit = false := by
  by_cases hc : c.isLower = true
  · have halpha := (Char.isAlpha_toUpper_eq_isAlpha c).trans (isAlpha_of_isLower hc)
    exact isDigit_eq_false_of_isAlpha halpha
  · rwa [Char.toUpper_eq_of_not_isLower hc]

theorem isDigit_of_isDigit_toLower (h : c.toLower.isDigit = true) : c.isDigit = true := by
  by_cases hc : c.isUpper = true
  · have halpha := (Char.isAlpha_toLower_eq_isAlpha c).trans (isAlpha_of_isUpper hc)
    rw [isDigit_eq_false_of_isAlpha halpha] at h
    cases h
  · rwa [Char.toLower_eq_of_not_isUpper hc] at h

theorem isWordChar_iff : isWordChar c = true ↔ c.isAlpha = true ∨ c.isDigit = true ∨ c = '_' := by
  simp [isWordChar, Char.isAlphanum, or_assoc]

theorem isWordChar_toLower (h : isWordChar c = true) : isWordChar c.toLower = true := by
  by_cases hc : c.isUpper = true
  · have halpha := (Char.isAlpha_toLower_eq_isAlpha c).trans (isAlpha_of_isUpper hc)
    exact isWordChar_iff.mpr (Or.inl halpha)
  · rwa [Char.toLower_eq_of_not_isUpper hc]

theorem toNat_lt_of_isWordChar (h : isWordChar c = true) : c.toNat < 0x80 := by
  simp only [isWordChar_iff, Char.isAlpha, Char.isUpper, Char.isLower, Char.isDigit,
    Bool.or_eq_true, Bool.and_eq_true, decide_eq_true_eq, UInt32.le_iff_toNat_le, ge_iff_le] at h
  unfold Char.toNat
  rcases h with (⟨-, hz⟩ | ⟨-, hz⟩) | ⟨-, hz⟩ | rfl
  · exact Nat.lt_of_le_of_lt hz (by decide)
  · exact Nat.lt_of_le_of_lt hz (by decide)
  · exact Nat.lt_of_le_of_lt hz (by decide)
  · decide

/-- A word has no character whose lower case is not its own partner. -/
theorem toLowerAfter_of_isWord (h : IsWord s) (before : Bool) :
    toLowerAfter before s = s.map Char.toLower := by
  induction s generalizing before with
  | nil => rfl
  | cons c s ih =>
    obtain ⟨hc, hs⟩ := h.cons
    have hsigma : c ≠ 'Σ' := by
      rintro rfl
      exact absurd hc (by decide)
    have hdotted : c ≠ 'İ' := by
      rintro rfl
      exact absurd hc (by decide)
    rw [toLowerAfter, if_neg hsigma, if_neg hdotted, ih hs,
      lowerChar_of_ascii (toNat_lt_of_isWordChar hc)]
    rfl

theorem toLower_of_isWord (h : IsWord s) : toLower s = s.map Char.toLower :=
  toLowerAfter_of_isWord h false

end Text

open Text

namespace Identifier

variable {c d : Char} {s before after : List Char} {raw : String}

section First

theorem exists_head?_joinWords (h : s.head? = some d) :
    ∃ e, (joinWords s).head? = some e ∧ (e = d ∨ e.isUpper = true) := by
  revert h
  fun_cases joinWords s with
  | case1 c s hlower =>
    intro _
    exact ⟨c.toUpper, rfl, Or.inr (by simp [Char.isAlpha, hlower])⟩
  | case2 c s hlower =>
    intro h
    exact ⟨'_', rfl, Or.inl (Option.some.inj h)⟩
  | case3 c s hc =>
    intro h
    exact ⟨c, rfl, Or.inl (Option.some.inj h)⟩
  | case4 =>
    intro h
    cases h

/-- The mark leaves no digit at the start, if a name starts with one only in `0x`. -/
theorem exists_head?_markHex (h : s.head? = some d) (hdigit : d.isDigit = true → StartsHex s) :
    ∃ e, (markHex s).head? = some e ∧ e.isDigit = false := by
  by_cases hs : StartsHex s
  · rw [markHex_of_startsHex hs]
    exact ⟨'n', rfl, rfl⟩
  · rw [head?_markHex_of_not_startsHex hs]
    refine ⟨d, h, ?_⟩
    rw [Bool.eq_false_iff]
    exact fun hd => hs (hdigit hd)

/-- An identifier starts neither with a digit nor with a lower-case letter. -/
theorem exists_head?_ofLower (h : s.head? = some d) (hdigit : d.isDigit = true → StartsHex s) :
    ∃ c, (ofLower s).head? = some c ∧ c.isDigit = false ∧ c.isLower = false := by
  obtain ⟨m, hm, hmdigit⟩ := exists_head?_markHex h hdigit
  obtain ⟨e, he, horigin⟩ := exists_head?_joinWords hm
  have hedigit : e.isDigit = false := by
    rcases horigin with rfl | hupper
    · exact hmdigit
    · exact isDigit_eq_false_of_isAlpha (isAlpha_of_isUpper hupper)
  obtain ⟨rest, hrest⟩ := List.head?_eq_some_iff.mp he
  refine ⟨e.toUpper, ?_, isDigit_toUpper_eq_false hedigit, Char.isLower_toUpper_eq_false e⟩
  rw [ofLower, hrest]
  rfl

end First

section Words

theorem isWord_ofLower (h : IsWord s) : IsWord (ofLower s) := by
  intro c hc
  rcases mem_or_capital_of_mem_ofLower hc with hmarked | hcapital
  · rcases mem_replaceFirst hmarked with hs | hmark
    · exact h c hs
    · have hword : IsWord ['n', '_', '0', 'x'] := by decide
      exact hword c hmark
  · have hupper : c.isUpper = true := by
      simpa [Char.isUpper, UInt32.le_iff_toNat_le] using hcapital
    exact isWordChar_iff.mpr (Or.inl (isAlpha_of_isUpper hupper))

/-- No lower-case letter follows an underscore. -/
def Joined (s : List Char) : Prop := ∀ c, ['_', c] <:+: s → c.isLower = false

theorem Joined.cons (h : c = '_' → ∀ d, s.head? = some d → d.isLower = false) (hs : Joined s) :
    Joined (c :: s) := by
  intro d hd
  rcases List.infix_cons_iff.mp hd with hstart | hrest
  · obtain ⟨hc, rest, rfl⟩ := List.cons_prefix_cons.mp hstart
    exact h hc.symm d rfl
  · exact hs d hrest

theorem joined_joinWords (s : List Char) : Joined (joinWords s) := by
  fun_induction joinWords s with
  | case1 c s hlower ih =>
    refine ih.cons fun hc => ?_
    have hupper : c.toUpper.isUpper = true := by simp [Char.isAlpha, hlower]
    rw [hc] at hupper
    cases hupper
  | case2 c s hlower ih =>
    refine ih.cons fun _ d hd => ?_
    obtain ⟨e, he, horigin⟩ := exists_head?_joinWords (s := c :: s) rfl
    obtain rfl : e = d := Option.some.inj (he.symm.trans hd)
    rw [Bool.eq_false_iff]
    rcases horigin with rfl | hupper
    · exact hlower
    · exact Char.not_isLower_of_isUpper hupper
  | case3 c s hc ih =>
    refine ih.cons fun hunderscore d hd => ?_
    -- Were there a character after the underscore, another case would apply.
    cases s with
    | nil => cases hd
    | cons e s => exact absurd rfl (hc e s hunderscore)
  | case4 =>
    intro c hc
    cases List.infix_nil.mp hc

theorem joined_ofLower (s : List Char) : Joined (ofLower s) := by
  rw [ofLower, raiseFirst_joinWords_eq]
  exact joined_joinWords _

end Words

section Hexadecimal

def HasHex (s : List Char) : Prop := ['0', 'x'] <:+: s

theorem exists_of_mark_eq (hs : StartsHex s)
    (h : 'n' :: '_' :: s = before ++ '0' :: 'x' :: after) (hfirst : ¬ HasHex before) :
    ∃ b, before = b ++ ['n', '_'] := by
  rcases before with _ | ⟨n, _ | ⟨u, rest⟩⟩
  · cases (List.cons.inj h).1
  · cases (List.cons.inj (List.cons.inj h).2).1
  · obtain ⟨rfl, htail⟩ := List.cons.inj h
    obtain ⟨rfl, hrest⟩ := List.cons.inj htail
    -- If more came before, the text would go on with its own `0x`, which would be the first one.
    rcases rest with _ | ⟨z, _ | ⟨x, rest⟩⟩
    · exact ⟨[], rfl⟩
    · rw [hrest] at hs
      cases (startsHex_cons_iff.mp hs).2
    · rw [hrest] at hs
      obtain ⟨rfl, hx⟩ := startsHex_cons_iff.mp hs
      obtain rfl : x = 'x' := Option.some.inj hx
      exact absurd ⟨['n', '_'], rest, rfl⟩ hfirst

/-- The mark of a text stands before the first `0x` of the marked text. -/
theorem exists_of_markHex_eq (h : markHex s = before ++ '0' :: 'x' :: after)
    (hfirst : ¬ HasHex before) : ∃ b, before = b ++ ['n', '_'] := by
  induction s generalizing before with
  | nil => cases (List.append_eq_nil_iff.mp h.symm).2
  | cons c s ih =>
    by_cases hs : StartsHex (c :: s)
    · rw [markHex_of_startsHex hs] at h
      exact exists_of_mark_eq hs h hfirst
    · cases before with
      | nil => exact absurd ⟨after, h.symm⟩ (not_startsHex_markHex (c :: s))
      | cons a before =>
        rw [markHex_cons_of_not_startsHex hs] at h
        obtain ⟨rfl, hrest⟩ := List.cons.inj h
        obtain ⟨b, rfl⟩ := ih hrest fun hhex => hfirst (hhex.trans (List.suffix_cons c before).isInfix)
        exact ⟨c :: b, rfl⟩

theorem exists_of_separateFirst_markHex_eq
    (h : separateFirst (markHex s) = before ++ '0' :: 'x' :: after) (hfirst : ¬ HasHex before) :
    ∃ b, before = b ++ ['n', '_'] := by
  by_cases hs : StartsLower (markHex s)
  · rw [separateFirst_of_startsLower hs] at h
    cases before with
    | nil => cases (List.cons.inj h).1
    | cons a before =>
      obtain ⟨rfl, hrest⟩ := List.cons.inj h
      obtain ⟨b, rfl⟩ := exists_of_markHex_eq hrest fun hhex =>
        hfirst (hhex.trans (List.suffix_cons '_' before).isInfix)
      exact ⟨'_' :: b, rfl⟩
  · rw [separateFirst_of_not_startsLower hs] at h
    exact exists_of_markHex_eq h hfirst

theorem splitWords_append (s t : List Char) :
    splitWords (s ++ t) = splitWords s ++ splitWords t := by
  induction s with
  | nil => rfl
  | cons c s ih =>
    rw [List.cons_append, splitWords, splitWords, ih]
    split_ifs <;> rfl

theorem head?_of_head?_splitWords (h : (splitWords s).head? = some 'x') : s.head? = some 'x' := by
  cases s with
  | nil => exact h
  | cons c s =>
    rw [splitWords] at h
    split_ifs at h
    · cases h
    · exact h

/-- Splitting words makes no `0x`. -/
theorem hasHex_of_hasHex_splitWords (h : HasHex (splitWords s)) : HasHex s := by
  induction s with
  | nil => exact h
  | cons c s ih =>
    have hrest (h : HasHex (splitWords s)) : HasHex (c :: s) :=
      (ih h).trans (List.suffix_cons c s).isInfix
    by_cases hc : c.isUpper = true
    · rw [splitWords_cons_of_isUpper hc] at h
      have hletter : c.toLower.isLower = true := by
        rw [Char.isLower_toLower_eq_isAlpha, isAlpha_of_isUpper hc]
      rcases List.infix_cons_iff.mp h with hstart | h
      · cases (List.cons_prefix_cons.mp hstart).1
      · rcases List.infix_cons_iff.mp h with hstart | h
        · rw [← (List.cons_prefix_cons.mp hstart).1] at hletter
          cases hletter
        · exact hrest h
    · rw [splitWords_cons_of_not_isUpper (Bool.eq_false_iff.mpr hc)] at h
      rcases List.infix_cons_iff.mp h with hstart | h
      · obtain ⟨rfl, hx⟩ := startsHex_cons_iff.mp hstart
        exact (startsHex_cons_iff.mpr ⟨rfl, head?_of_head?_splitWords hx⟩).isInfix
      · exact hrest h

theorem exists_of_splitWords_eq_concat {t : List Char} (h : splitWords s = t ++ [d]) :
    ∃ s' c, s = s' ++ [c] ∧
      (c.isUpper = true ∧ c.toLower = d ∨ c = d ∧ splitWords s' = t) := by
  cases s using List.reverseRecOn with
  | nil => cases (List.append_eq_nil_iff.mp h.symm).2
  | append_singleton s' c =>
    refine ⟨s', c, rfl, ?_⟩
    rw [splitWords_append] at h
    by_cases hc : c.isUpper = true
    · have hlast : (splitWords s' ++ ['_']) ++ [c.toLower] = t ++ [d] := by
        rwa [splitWords_cons_of_isUpper hc, ← List.singleton_append, ← List.append_assoc] at h
      exact Or.inl ⟨hc, (List.append_singleton_inj.mp hlast).2⟩
    · rw [splitWords_cons_of_not_isUpper (Bool.eq_false_iff.mpr hc)] at h
      obtain ⟨ht, hd⟩ := List.append_singleton_inj.mp h
      exact Or.inr ⟨hd, ht⟩

/-- The mark stays in an identifier, its letter raised or not. -/
theorem exists_of_splitWords_eq_mark {t : List Char} (h : splitWords s = t ++ ['n', '_']) :
    ∃ b, s = b ++ ['n', '_'] ∨ s = b ++ ['N', '_'] := by
  have hmark : splitWords s = (t ++ ['n']) ++ ['_'] := by rw [h, List.append_assoc]; rfl
  obtain ⟨s', c, rfl, ⟨hupper, hc⟩ | ⟨rfl, hs'⟩⟩ := exists_of_splitWords_eq_concat hmark
  · have hletter := Char.isLower_toLower_eq_isAlpha c
    rw [hc, isAlpha_of_isUpper hupper] at hletter
    cases hletter
  · obtain ⟨b, c, rfl, ⟨hupper, hc⟩ | ⟨rfl, -⟩⟩ := exists_of_splitWords_eq_concat hs'
    · have hN : c = 'N' := by
        rw [← Char.toUpper_eq_of_not_isLower (Char.not_isLower_of_isUpper hupper),
          ← Char.toUpper_toLower_eq_toUpper, hc]
        rfl
      exact ⟨b, Or.inr (by rw [hN, List.append_assoc]; rfl)⟩
    · exact ⟨b, Or.inl (by rw [List.append_assoc]; rfl)⟩

theorem exists_of_ofLower_eq (hs : NoCapitals s) (h : ofLower s = before ++ '0' :: 'x' :: after)
    (hfirst : ¬ HasHex before) : ∃ b, before = b ++ ['n', '_'] ∨ before = b ++ ['N', '_'] := by
  -- Read back, the identifier has its first `0x` where the marked name has it.
  have hread : separateFirst (markHex s) = splitWords before ++ '0' :: 'x' :: splitWords after := by
    rw [← splitWords_raiseFirst_joinWords (noCapitals_markHex hs), ← ofLower, h, splitWords_append]
    rfl
  obtain ⟨t, ht⟩ :=
    exists_of_separateFirst_markHex_eq hread (mt hasHex_of_hasHex_splitWords hfirst)
  exact exists_of_splitWords_eq_mark ht

end Hexadecimal

section Plain

/-- A word that starts with a digit only if it starts with `0x` or `0X`. -/
structure IsPlain (s : List Char) : Prop where
  ne_nil : s ≠ []
  isWord : IsWord s
  startsHex : ∀ c, s.head? = some c → c.isDigit = true → ['0', 'x'] <+: s ∨ ['0', 'X'] <+: s

/-- A letter or an underscore, then letters, digits and underscores. -/
def IsName (s : List Char) : Prop :=
  ∃ c rest, s = c :: rest ∧ (c.isAlpha = true ∨ c = '_') ∧ IsWord rest

theorem IsPlain.exists_head?_toLower (h : IsPlain s) :
    ∃ d, (toLower s).head? = some d ∧ (d.isDigit = true → StartsHex (toLower s)) := by
  rw [toLower_of_isWord h.isWord]
  obtain ⟨c, rest, rfl⟩ := List.exists_cons_of_ne_nil h.ne_nil
  refine ⟨c.toLower, rfl, fun hdigit => ?_⟩
  rcases h.startsHex c rfl (isDigit_of_isDigit_toLower hdigit) with hx | hX
  · exact hx.map Char.toLower
  · exact hX.map Char.toLower

theorem IsPlain.isWord_toLower (h : IsPlain s) : IsWord (toLower s) := by
  rw [toLower_of_isWord h.isWord]
  exact List.forall_mem_map.mpr fun c hc => isWordChar_toLower (h.isWord c hc)

theorem isLower_of_mem_keywords :
    ∀ word ∈ ReservedWords.keywords, ∃ c, word.toList.head? = some c ∧ c.isLower = true := by
  simp [ReservedWords.keywords]

end Plain

/-- The identifier of a plain name is a name that needs no escaping. It does not start with a
lower-case letter, so it is no keyword; no lower-case letter follows an underscore in it; and the
mark stands before its first `0x`. -/
theorem ofNames?_isName {name key : Option String} (hraw : name.or key = some raw)
    (h : IsPlain raw.toList) :
    ∃ identifier, ofNames? name key = some identifier ∧
      IsName identifier.toList ∧
      (∀ c, identifier.toList.head? = some c → c.isLower = false) ∧
      (∀ c, ['_', c] <:+: identifier.toList → c.isLower = false) ∧
      (∀ before after, identifier.toList = before ++ '0' :: 'x' :: after →
        ¬ ['0', 'x'] <:+: before → ∃ b, before = b ++ ['n', '_'] ∨ before = b ++ ['N', '_']) ∧
      identifier ∉ ReservedWords.keywords := by
  have hchars : (ofName raw).toList = ofLower (toLower raw.toList) := String.toList_ofList
  obtain ⟨d, hd, hdigit⟩ := h.exists_head?_toLower
  obtain ⟨c, hc, hcdigit, hclower⟩ := exists_head?_ofLower hd hdigit
  obtain ⟨rest, hrest⟩ := List.head?_eq_some_iff.mp hc
  have hword := isWord_ofLower h.isWord_toLower
  refine ⟨ofName raw, by rw [ofNames?, hraw, Option.map_some], ?_, ?_, ?_, ?_, ?_⟩
  · rw [hrest] at hword
    refine ⟨c, rest, hchars.trans hrest, ?_, hword.cons.2⟩
    rcases isWordChar_iff.mp hword.cons.1 with halpha | hdig | hunderscore
    · exact Or.inl halpha
    · rw [hcdigit] at hdig
      cases hdig
    · exact Or.inr hunderscore
  · intro e he
    rw [hchars, hc] at he
    exact Option.some.inj he ▸ hclower
  · rw [hchars]
    exact joined_ofLower _
  · intro before after hsplit hfirst
    exact exists_of_ofLower_eq (noCapitals_toLower _) (hchars.symm.trans hsplit) hfirst
  · intro hkeyword
    obtain ⟨e, he, hlower⟩ := isLower_of_mem_keywords _ hkeyword
    rw [hchars, hc] at he
    rw [← Option.some.inj he, hclower] at hlower
    cases hlower

/-- A native without a name, called by its hash. -/
theorem ofNames?_isName_hash :
    (none : Option String).or (some "0XA4_d1_0x9") = some "0XA4_d1_0x9" ∧
      IsPlain "0XA4_d1_0x9".toList ∧
      ∃ identifier, ofNames? none (some "0XA4_d1_0x9") = some identifier ∧
        identifier = "N_0xa4D1_0x9" ∧ IsName identifier.toList ∧
        identifier ∉ ReservedWords.keywords := by
  have hplain : IsPlain "0XA4_d1_0x9".toList :=
    { ne_nil := by decide
      isWord := by decide +kernel
      startsHex := fun _ _ _ => Or.inr (by decide) }
  obtain ⟨identifier, hidentifier, hname, -, -, -, hkeyword⟩ :=
    ofNames?_isName (Option.none_or) hplain
  refine ⟨rfl, hplain, identifier, hidentifier, ?_, hname, hkeyword⟩
  exact Option.some.inj (hidentifier.symm.trans (by decide +kernel))

end Identifier

end NativeStubs
