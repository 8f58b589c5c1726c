import Mathlib.Data.List.TakeWhile
import NativeStubs.Toml.Text

/-! # Reading TOML strings back

A string is read back from each form that it fits, if no quote follows. Of the quotes in a row that
need no escape, those at the end of a string stand before its closing quotes, and the reader tells
them apart by the length of the row.
-/

namespace NativeStubs

namespace Toml

variable {form : Form} {c : Char} {s rest : List Char}

section Escapes

theorem escape?_hex4 (h : c.toNat < 0x10000) :
    escape? ('u' :: Text.hex4 Text.upperDigit c.toNat ++ rest) = some (c, 5) := by
  rw [List.cons_append, escape?]
  simp [escapeWidth?, Text.hexNumber?_hex4 (fun _ => Text.hexDigit?_upperDigit) h]

theorem isControl_lt (h : isControl c) : c.toNat < 0x80 := by
  simp only [isControl, Bool.or_eq_true, Bool.and_eq_true, decide_eq_true_eq, beq_iff_eq] at h
  omega

/-- An escape is read as the character that it stands for, and joins no lines. -/
theorem escapeChar?_eq_some {e : List Char} (h : escapeChar? form c = some e) :
    ∃ e', e = '\\' :: e' ∧ ∀ rest : List Char,
      escape? (e' ++ rest) = some (c, e'.length) ∧ joinsLines (e' ++ rest) = false := by
  unfold escapeChar? at h
  split_ifs at h with h₁ h₂ h₃ h₄ h₅ h₆ h₇ hcontrol
  all_goals obtain rfl := Option.some.inj h
  all_goals try exact ⟨_, rfl, fun rest => by subst c; exact ⟨rfl, rfl⟩⟩
  refine ⟨'u' :: Text.hex4 Text.upperDigit c.toNat, rfl, fun rest => ⟨escape?_hex4 ?_, rfl⟩⟩
  exact lt_trans (isControl_lt hcontrol) (by decide)

theorem escapeChar?_eq_none (h : escapeChar? form c = none) :
    c ≠ '\\' ∧ c ≠ '\r' ∧ isControl c = false ∧ (c = '\n' → form = .multiBasic) := by
  unfold escapeChar? at h
  split_ifs at h with h₁ h₂ h₃ hform h₄ h₅ h₆ hcontrol
  · subst h₃
    exact ⟨by decide, by decide, by decide, fun _ => hform⟩
  · exact ⟨h₆, h₅, by simpa using hcontrol, fun he => absurd he h₃⟩

/-- A character in a basic string is a quote that needs no escape, or is escaped, or stands for
itself. -/
theorem escapeFrom_cons (form : Form) (run : Nat) (c : Char) (s : List Char) :
    (c = '"' ∧ run < form.quoteLimit ∧
        escapeFrom form run (c :: s) = '"' :: escapeFrom form (run + 1) s) ∨
      (∃ e, escapeFrom form run (c :: s) = '\\' :: (e ++ escapeFrom form 0 s) ∧
        ∀ rest : List Char,
          escape? (e ++ rest) = some (c, e.length) ∧ joinsLines (e ++ rest) = false) ∨
      escapeFrom form run (c :: s) = c :: escapeFrom form 0 s ∧ c ≠ '"' ∧ c ≠ '\\' ∧ c ≠ '\r' ∧
        isControl c = false ∧ (c = '\n' → form = .multiBasic) := by
  rw [escapeFrom]
  split_ifs with hquote hrun
  · exact Or.inl ⟨hquote, hrun, rfl⟩
  · subst hquote
    exact Or.inr (Or.inl ⟨['"'], rfl, fun rest => ⟨rfl, rfl⟩⟩)
  · cases h : escapeChar? form c with
    | none => exact Or.inr (Or.inr ⟨rfl, hquote, escapeChar?_eq_none h⟩)
    | some e =>
      obtain ⟨e, rfl, he⟩ := escapeChar?_eq_some h
      exact Or.inr (Or.inl ⟨e, rfl, he⟩)

end Escapes

section Basic

theorem basic?_quote : basic? ('"' :: rest) = some ([], rest) := by
  simp [basic?]

theorem basic?_escape {e : List Char} (h : escape? (e ++ rest) = some (c, e.length)) :
    basic? ('\\' :: (e ++ rest)) = (basic? rest).map fun (text, after) => (c :: text, after) := by
  rw [basic?]
  simp [h]

theorem basic?_plain (hquote : c ≠ '"') (hslash : c ≠ '\\') (hfeed : c ≠ '\n')
    (hcontrol : isControl c = false) :
    basic? (c :: rest) = (basic? rest).map fun (text, after) => (c :: text, after) := by
  rw [basic?]
  simp [hquote, hslash, hfeed, hcontrol]

theorem basic?_escapeFrom (run : Nat) (s rest : List Char) :
    basic? (escapeFrom .basic run s ++ '"' :: rest) = some (s, rest) := by
  induction s generalizing run with
  | nil => exact basic?_quote
  | cons c s ih =>
    obtain ⟨-, hrun, -⟩ | ⟨e, h, he⟩ | ⟨h, hquote, hslash, -, hcontrol, hfeed⟩ :=
      escapeFrom_cons .basic run c s
    · cases hrun
    · rw [h, List.cons_append, List.append_assoc, basic?_escape (he _).1, ih]
      rfl
    · rw [h, List.cons_append, basic?_plain hquote hslash (fun he => nomatch hfeed he) hcontrol, ih]
      rfl

theorem literal?_append (h : ∀ c ∈ s, c ≠ '\'' ∧ c ≠ '\n' ∧ isControl c = false)
    (rest : List Char) : literal? (s ++ '\'' :: rest) = some (s, rest) := by
  induction s with
  | nil => rfl
  | cons c s ih =>
    obtain ⟨⟨hquote, hfeed, hcontrol⟩, hs⟩ := List.forall_mem_cons.mp h
    rw [List.cons_append, literal?, if_neg hquote, ih hs]
    simp [hfeed, hcontrol]

end Basic

section Rows

variable {quote : Char}

theorem quoteRun_cons_self (quote : Char) (s : List Char) :
    quoteRun quote (quote :: s) = quoteRun quote s + 1 := by
  simp [quoteRun]

theorem quoteRun_cons_of_ne (h : c ≠ quote) (s : List Char) : quoteRun quote (c :: s) = 0 := by
  simp [quoteRun, h]

theorem quoteRun_replicate (h : ∀ c ∈ rest.head?, c ≠ quote) (n : Nat) :
    quoteRun quote (List.replicate n quote ++ rest) = n := by
  induction n with
  | zero =>
    cases rest with
    | nil => rfl
    | cons c rest => exact quoteRun_cons_of_ne (h c rfl) rest
  | succ n ih => rw [List.replicate_succ, List.cons_append, quoteRun_cons_self, ih]

/-- A string is a row of quotes that need no escape, or the row that it starts with ends in it. -/
theorem escapeFrom_row {run : Nat} (s : List Char) (hrun : run ≤ 2) :
    (∃ n, n + run ≤ 2 ∧ s = List.replicate n '"' ∧
        escapeFrom .multiBasic run s = List.replicate n '"') ∨
      ∀ t, quoteRun '"' (escapeFrom .multiBasic run s ++ t) + run ≤ 2 := by
  induction s generalizing run with
  | nil => exact Or.inl ⟨0, by omega, rfl, rfl⟩
  | cons c s ih =>
    obtain ⟨rfl, hlimit, h⟩ | ⟨e, h, -⟩ | ⟨h, hquote, -⟩ := escapeFrom_cons .multiBasic run c s
    · obtain ⟨n, hn, rfl, hs⟩ | hs := ih (show run + 1 ≤ 2 from hlimit)
      · exact Or.inl ⟨n + 1, by omega, rfl, by rw [h, hs, List.replicate_succ]⟩
      · refine Or.inr fun t => ?_
        have ht := hs t
        rw [h, List.cons_append, quoteRun_cons_self]
        omega
    · refine Or.inr fun t => ?_
      rw [h, List.cons_append, quoteRun_cons_of_ne (by decide)]
      omega
    · refine Or.inr fun t => ?_
      rw [h, List.cons_append, quoteRun_cons_of_ne hquote]
      omega

/-- The same for a string without three quotes in a row. -/
theorem row_of_hasTriple : ∀ {s : List Char}, hasTriple quote s = false →
    (∃ n ≤ 2, s = List.replicate n quote) ∨ ∀ t, quoteRun quote (s ++ t) ≤ 2
  | [], _ => Or.inl ⟨0, by decide, rfl⟩
  | [a], _ => by
    by_cases ha : a = quote
    · exact Or.inl ⟨1, by decide, by rw [ha]; rfl⟩
    · exact Or.inr fun t => by simp [quoteRun_cons_of_ne ha]
  | [a, b], _ => by
    by_cases ha : a = quote
    · by_cases hb : b = quote
      · exact Or.inl ⟨2, by decide, by rw [ha, hb]; rfl⟩
      · exact Or.inr fun t => by simp [ha, quoteRun_cons_self, quoteRun_cons_of_ne hb]
    · exact Or.inr fun t => by simp [quoteRun_cons_of_ne ha]
  | a :: b :: c :: s, h => by
    refine Or.inr fun t => ?_
    by_cases ha : a = quote
    · by_cases hb : b = quote
      · have hc : c ≠ quote := by
          rintro rfl
          simp [hasTriple, ha, hb] at h
        simp [ha, hb, quoteRun_cons_self, quoteRun_cons_of_ne hc]
      · simp [ha, quoteRun_cons_self, quoteRun_cons_of_ne hb]
    · simp [quoteRun_cons_of_ne ha]

/-- Quotes at the end of a string, its closing quotes and what follows. -/
theorem close_row (quote : Char) (n : Nat) (hrest : ∀ c ∈ rest.head?, c ≠ quote) :
    ∃ t, List.replicate n quote ++ (List.replicate 3 quote ++ rest) = quote :: t ∧
      quoteRun quote (quote :: t) = n + 3 ∧ (quote :: t).drop (n + 3) = rest := by
  have hrow : List.replicate n quote ++ (List.replicate 3 quote ++ rest) =
      quote :: (List.replicate (n + 2) quote ++ rest) := by
    rw [← List.append_assoc, List.replicate_append_replicate, ← List.cons_append,
      ← List.replicate_succ]
  refine ⟨_, hrow, ?_, ?_⟩
  · rw [quoteRun_cons_self, quoteRun_replicate hrest]
  · rw [← List.cons_append, ← List.replicate_succ]
    exact List.drop_left' (List.length_replicate ..)

end Rows

section Multi

theorem multiBasic?_close {n : Nat} (hn : n ≤ 2) (hrest : ∀ c ∈ rest.head?, c ≠ '"') :
    multiBasic? (List.replicate n '"' ++ (List.replicate 3 '"' ++ rest)) =
      some (List.replicate n '"', rest) := by
  obtain ⟨t, ht, hrun, hdrop⟩ := close_row '"' n hrest
  rw [ht, multiBasic?, if_pos rfl, hrun]
  simp [hn, hdrop]

theorem multiBasic?_quote (h : quoteRun '"' s ≤ 1) :
    multiBasic? ('"' :: s) = (multiBasic? s).map fun (text, after) => ('"' :: text, after) := by
  rw [multiBasic?, if_pos rfl, quoteRun_cons_self]
  exact if_neg (by omega)

theorem multiBasic?_escape {e : List Char} (h : escape? (e ++ rest) = some (c, e.length))
    (hjoin : joinsLines (e ++ rest) = false) :
    multiBasic? ('\\' :: (e ++ rest)) =
      (multiBasic? rest).map fun (text, after) => (c :: text, after) := by
  rw [multiBasic?]
  simp [h, hjoin]

theorem multiBasic?_plain (hquote : c ≠ '"') (hslash : c ≠ '\\') (hcontrol : isControl c = false) :
    multiBasic? (c :: rest) = (multiBasic? rest).map fun (text, after) => (c :: text, after) := by
  rw [multiBasic?]
  simp [hquote, hslash, hcontrol]

theorem multiBasic?_escapeFrom {run : Nat} (hrun : run ≤ 2) (s : List Char)
    (hrest : ∀ c ∈ rest.head?, c ≠ '"') :
    multiBasic? (escapeFrom .multiBasic run s ++ (List.replicate 3 '"' ++ rest)) =
      some (s, rest) := by
  induction s generalizing run with
  | nil => exact multiBasic?_close (n := 0) (by decide) hrest
  | cons c s ih =>
    obtain ⟨rfl, hlimit, h⟩ | ⟨e, h, he⟩ | ⟨h, hquote, hslash, -, hcontrol, -⟩ :=
      escapeFrom_cons .multiBasic run c s
    · -- a quote that stands as it is either belongs to the row before the closing quotes or not
      obtain ⟨n, hn, hs, hrow⟩ | hrow := escapeFrom_row ('"' :: s) hrun
      · rw [hrow, hs]
        exact multiBasic?_close (by omega) hrest
      · have hnext := hrow (List.replicate 3 '"' ++ rest)
        rw [h, List.cons_append] at hnext ⊢
        rw [quoteRun_cons_self] at hnext
        rw [multiBasic?_quote (by omega), ih hlimit]
        rfl
    · rw [h, List.cons_append, List.append_assoc, multiBasic?_escape (he _).1 (he _).2,
        ih (by decide)]
      rfl
    · rw [h, List.cons_append, multiBasic?_plain hquote hslash hcontrol, ih (by decide)]
      rfl

theorem hasTriple_of_cons (h : hasTriple quote (c :: s) = false) : hasTriple quote s = false := by
  match s, h with
  | [], _ | [_], _ => rfl
  | _ :: _ :: _, h => exact (Bool.or_eq_false_iff.mp h).2

theorem multiLiteral?_close {n : Nat} (hn : n ≤ 2) (hrest : ∀ c ∈ rest.head?, c ≠ '\'') :
    multiLiteral? (List.replicate n '\'' ++ (List.replicate 3 '\'' ++ rest)) =
      some (List.replicate n '\'', rest) := by
  obtain ⟨t, ht, hrun, hdrop⟩ := close_row '\'' n hrest
  rw [ht, multiLiteral?, hrun]
  simp [hn, hdrop]

theorem multiLiteral?_append (htriple : hasTriple '\'' s = false)
    (hcontrol : ∀ c ∈ s, isControl c = false) (hrest : ∀ c ∈ rest.head?, c ≠ '\'') :
    multiLiteral? (s ++ (List.replicate 3 '\'' ++ rest)) = some (s, rest) := by
  induction s with
  | nil => exact multiLiteral?_close (n := 0) (by decide) hrest
  | cons c s ih =>
    obtain ⟨n, hn, hs⟩ | hrow := row_of_hasTriple htriple
    · rw [hs]
      exact multiLiteral?_close hn hrest
    · have hrun := hrow (List.replicate 3 '\'' ++ rest)
      obtain ⟨hc, hs⟩ := List.forall_mem_cons.mp hcontrol
      rw [List.cons_append] at hrun ⊢
      rw [multiLiteral?, ih (hasTriple_of_cons htriple) hs, if_neg (by omega)]
      simp [hc]

end Multi

namespace Form

/-- The strings that a form can hold. The two forms with escapes can hold any. -/
def Fits : Form → List Char → Prop
  | basic, _ | multiBasic, _ => True
  | literal, s => ∀ c ∈ s, c ≠ '\'' ∧ c ≠ '\n' ∧ isControl c = false
  | multiLiteral, s => hasTriple '\'' s = false ∧ ∀ c ∈ s, isControl c = false

theorem fits_choose (s : List Char) : (choose s).Fits s := by
  have hplain (h : !s.any isControl) : ∀ c ∈ s, isControl c = false := by
    simpa using h
  unfold choose
  dsimp only
  split_ifs with h₁ h₂ h₃ h₄
  · trivial
  · simp only [Bool.and_eq_true] at h₂
    obtain ⟨⟨hcontrol, hfeed⟩, hquote⟩ := h₂
    refine fun c hc => ⟨?_, ?_, hplain hcontrol c hc⟩
    · rintro rfl
      simp [hc] at hquote
    · rintro rfl
      simp [hc] at hfeed
  · trivial
  · simp only [Bool.and_eq_true] at h₄
    exact ⟨by simpa using h₄.2, hplain h₄.1⟩
  · trivial
  · trivial

theorem string?_basic {t : List Char} (h : ∀ u, t ≠ '"' :: '"' :: u) :
    string? ('"' :: t) = basic? t := by
  unfold string?
  split <;> simp_all

theorem string?_literal {t : List Char} (h : ∀ u, t ≠ '\'' :: '\'' :: u) :
    string? ('\'' :: t) = literal? t := by
  unfold string?
  split <;> simp_all

/-- Only the line feed written for it is dropped before a string. -/
theorem dropLineEnd_first {t : List Char}
    (h : '\n' ∉ s → ∀ c ∈ t.head?, c ≠ '\n' ∧ c ≠ '\r') :
    dropLineEnd ((if s.contains '\n' then ['\n'] else []) ++ t) = t := by
  by_cases hs : '\n' ∈ s
  · simp [hs, dropLineEnd]
  · have hhead := h hs
    simp only [List.contains_iff_mem, if_neg hs, List.nil_append]
    unfold dropLineEnd
    split
    · exact absurd rfl (hhead _ rfl).1
    · exact absurd rfl (hhead _ rfl).2
    · rfl

theorem append_quote_ne {quote : Char} {t : List Char} (ht : ∀ c ∈ t.head?, c ≠ quote)
    (hrest : ∀ c ∈ rest.head?, c ≠ quote) (u : List Char) :
    t ++ quote :: rest ≠ quote :: quote :: u := by
  intro h
  cases t with
  | nil => exact hrest quote (by simp [(List.cons.inj h).2]) rfl
  | cons c t => exact ht c rfl (List.cons.inj h).1

theorem escapeFrom_basic_head (s : List Char) :
    ∀ c ∈ (escapeFrom .basic 0 s).head?, c ≠ '"' := by
  intro c hc
  cases s with
  | nil => cases hc
  | cons d s =>
    obtain ⟨-, hrun, -⟩ | ⟨e, h, -⟩ | ⟨h, hquote, -⟩ := escapeFrom_cons .basic 0 d s
    · cases hrun
    all_goals
      rw [h] at hc
      obtain rfl := Option.some.inj hc
    · decide
    · exact hquote

theorem escapeFrom_multiBasic_head {s : List Char} (hfeed : '\n' ∉ s) (t : List Char) :
    ∀ c ∈ (escapeFrom .multiBasic 0 s ++ '"' :: t).head?, c ≠ '\n' ∧ c ≠ '\r' := by
  intro c hc
  cases s with
  | nil =>
    obtain rfl := Option.some.inj hc
    decide
  | cons d s =>
    obtain ⟨-, -, h⟩ | ⟨e, h, -⟩ | ⟨h, -, -, hreturn, -⟩ := escapeFrom_cons .multiBasic 0 d s
    all_goals
      rw [h] at hc
      obtain rfl := Option.some.inj hc
    · decide
    · decide
    · exact ⟨fun hd => hfeed (hd ▸ List.mem_cons_self), hreturn⟩

theorem literal_head (hfeed : '\n' ∉ s) (hcontrol : ∀ c ∈ s, isControl c = false) (t : List Char) :
    ∀ c ∈ (s ++ '\'' :: t).head?, c ≠ '\n' ∧ c ≠ '\r' := by
  intro c hc
  cases s with
  | nil =>
    obtain rfl := Option.some.inj hc
    decide
  | cons d s =>
    obtain rfl := Option.some.inj hc
    refine ⟨fun hd => hfeed (hd ▸ List.mem_cons_self), ?_⟩
    rintro rfl
    exact absurd (hcontrol _ List.mem_cons_self) (by decide)

theorem string?_write (h : form.Fits s) (hrest : ∀ c ∈ rest.head?, c ≠ '"' ∧ c ≠ '\'') :
    string? (form.write s ++ rest) = some (s, rest) := by
  have hbasic : ∀ c ∈ rest.head?, c ≠ '"' := fun c hc => (hrest c hc).1
  have hliteral : ∀ c ∈ rest.head?, c ≠ '\'' := fun c hc => (hrest c hc).2
  cases form with
  | basic =>
    have hne := append_quote_ne (escapeFrom_basic_head s) hbasic
    rw [write, List.cons_append, List.append_assoc, List.singleton_append, string?_basic hne,
      basic?_escapeFrom]
  | literal =>
    have hne := append_quote_ne (fun c hc => (h c (List.mem_of_mem_head? hc)).1) hliteral
    rw [write, List.cons_append, List.append_assoc, List.singleton_append, string?_literal hne,
      literal?_append h]
  | multiBasic =>
    have hdrop := dropLineEnd_first fun hfeed : '\n' ∉ s =>
      escapeFrom_multiBasic_head hfeed ('"' :: '"' :: rest)
    have hread := multiBasic?_escapeFrom (Nat.zero_le 2) s hbasic
    rw [← hread]
    simp only [write, string?, List.append_assoc, List.cons_append, List.nil_append]
    rw [hdrop]
    rfl
  | multiLiteral =>
    obtain ⟨htriple, hcontrol⟩ := h
    have hdrop := dropLineEnd_first fun hfeed : '\n' ∉ s =>
      literal_head hfeed hcontrol ('\'' :: '\'' :: rest)
    have hread := multiLiteral?_append htriple hcontrol hliteral
    rw [← hread]
    simp only [write, string?, List.append_assoc, List.cons_append, List.nil_append]
    rw [hdrop]
    rfl

end Form

/-- A string is read back from the form it is written in. -/
theorem string?_encode (s : List Char) (hrest : ∀ c ∈ rest.head?, c ≠ '"' ∧ c ≠ '\'') :
    string? (encode s ++ rest) = some (s, rest) :=
  Form.string?_write (Form.fits_choose s) hrest

end Toml

end NativeStubs
