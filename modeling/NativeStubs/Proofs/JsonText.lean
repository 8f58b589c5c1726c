import Mathlib.Data.List.TakeWhile
import NativeStubs.Json.Printer
import NativeStubs.Json.Reader
import NativeStubs.Proofs.Fields

/-! # Reading back what was written

A value without numbers is the one read back from its text. A part of the text ends by its own
quotes and brackets, a word apart: it goes on for as long as there are letters, so no letter may
follow a part.
-/

namespace NativeStubs

namespace Json

section Strings

variable {c : Char} {rest : List Char}

theorem decode?_quote : decode? ('"' :: rest) = some ([], rest) := by
  simp [decode?]

theorem decode?_escape {e : List Char} (h : escape? (e ++ rest) = some (c, e.length)) :
    decode? ('\\' :: (e ++ rest)) = (decode? rest).map fun (text, after) => (c :: text, after) := by
  rw [decode?]
  simp [h]

theorem decode?_plain (hquote : c ≠ '"') (hslash : c ≠ '\\') (hlow : 0x20 ≤ c.toNat) :
    decode? (c :: rest) = (decode? rest).map fun (text, after) => (c :: text, after) := by
  rw [decode?]
  simp [hquote, hslash, Nat.not_lt.mpr hlow]

theorem escape?_hex4 (h : c.toNat < 0x20) :
    escape? ('u' :: Text.hex4 Nat.digitChar c.toNat ++ rest) = some (c, 5) := by
  have hn : ¬ (0xD800 ≤ c.toNat ∧ c.toNat < 0xDC00) := by omega
  rw [List.cons_append, escape?, numberEscape?,
    Text.hexNumber?_hex4 (fun _ => Text.hexDigit?_digitChar) (by omega)]
  simp [hn]

theorem hex4_of_lt (h : c.toNat < 0x20) : Text.hex4 Nat.digitChar c.toNat =
    ['0', '0', Nat.digitChar (c.toNat / 16), Nat.digitChar (c.toNat % 16)] := by
  have h₁ : c.toNat / 4096 % 16 = 0 := by omega
  have h₂ : c.toNat / 256 % 16 = 0 := by omega
  have h₃ : c.toNat / 16 % 16 = c.toNat / 16 := by omega
  rw [Text.hex4, h₁, h₂, h₃]
  rfl

/-- A character stands for itself or is escaped. -/
theorem encodeChar_cases (c : Char) :
    (encodeChar c = [c] ∧ c ≠ '"' ∧ c ≠ '\\' ∧ 0x20 ≤ c.toNat) ∨
      ∃ e, encodeChar c = '\\' :: e ∧ ∀ rest, escape? (e ++ rest) = some (c, e.length) := by
  generalize htext : encodeChar c = text
  unfold encodeChar at htext
  split_ifs at htext with hquote hslash h₁ h₂ h₃ h₄ h₅ hlow
  all_goals subst htext
  all_goals try exact Or.inr ⟨_, rfl, fun rest => by subst c; rfl⟩
  · refine Or.inr ⟨'u' :: Text.hex4 Nat.digitChar c.toNat, ?_, fun rest => escape?_hex4 hlow⟩
    rw [hex4_of_lt hlow]
  · exact Or.inl ⟨rfl, hquote, hslash, by omega⟩

theorem decode?_encodeChar (c : Char) (rest : List Char) :
    decode? (encodeChar c ++ rest) =
      (decode? rest).map fun (text, after) => (c :: text, after) := by
  obtain ⟨h, hquote, hslash, hlow⟩ | ⟨e, h, he⟩ := encodeChar_cases c
  · rw [h]
    exact decode?_plain hquote hslash hlow
  · rw [h]
    exact decode?_escape (he rest)

/-- A string is read back up to its closing quote. -/
theorem decode?_encode (s rest : List Char) :
    decode? (encode s ++ '"' :: rest) = some (s, rest) := by
  induction s with
  | nil => exact decode?_quote
  | cons c s ih =>
    rw [encode, List.flatMap_cons, List.append_assoc, decode?_encodeChar]
    rw [encode] at ih
    rw [ih]
    rfl

end Strings

section Lists

variable {α : Type} {read : Reader α} {text : List Char} {x : α}

def closers : List Char := [']', '\x7d']

/-- A thing is read back from its text if no letter follows. The text starts with neither a blank
nor a closing bracket. -/
structure ReadsBack (read : Reader α) (text : List Char) (x : α) : Prop where
  first : ∃ c s, text = c :: s ∧ isSpace c = false ∧ c ∉ closers
  read_append : ∀ rest : List Char, (∀ c ∈ rest.head?, c.isAlpha = false) →
    read (text ++ rest) = some (x, rest)

theorem ReadsBack.skipSpace_append (h : ReadsBack read text x) (rest : List Char) :
    skipSpace (text ++ rest) = text ++ rest := by
  obtain ⟨c, s, rfl, hc, -⟩ := h.first
  simp [skipSpace, hc]

theorem ReadsBack.read_cons (h : ReadsBack read text x) {c : Char} (hc : c.isAlpha = false)
    (rest : List Char) : read (text ++ c :: rest) = some (x, c :: rest) :=
  h.read_append _ fun _ hd => Option.some.inj hd ▸ hc

theorem skipSpace_cons {c : Char} (hc : isSpace c = false) (rest : List Char) :
    skipSpace (c :: rest) = c :: rest := by
  simp [skipSpace, hc]

theorem of_mem_closers {c : Char} (h : c ∈ closers) :
    isSpace c = false ∧ c.isAlpha = false ∧ ',' ≠ c := by
  simp only [closers, List.mem_cons, List.not_mem_nil, or_false] at h
  rcases h with rfl | rfl <;> decide

variable {item : Reader α} {write : α → List Char} {close : Char}

theorem exists_intercalate_eq (write : α → List Char) (x : α) (xs : List α) :
    ∃ t, List.intercalate [','] ((x :: xs).map write) = write x ++ t := by
  cases xs with
  | nil => exact ⟨[], by simp⟩
  | cons y ys => exact ⟨_, by rw [List.map_cons, List.map_cons, List.intercalate_cons_cons,
      List.append_assoc]⟩

theorem skipSpace_intercalate (x : α) (xs : List α) (h : ReadsBack item (write x) x)
    (rest : List Char) :
    skipSpace (List.intercalate [','] ((x :: xs).map write) ++ rest) =
      List.intercalate [','] ((x :: xs).map write) ++ rest := by
  obtain ⟨t, ht⟩ := exists_intercalate_eq write x xs
  rw [ht, List.append_assoc, h.skipSpace_append]

theorem itemsUntil_intercalate (hclose : close ∈ closers) (x : α) (xs : List α)
    (h : ∀ y ∈ x :: xs, ReadsBack item (write y) y) (rest : List Char) :
    itemsUntil item close (List.intercalate [','] ((x :: xs).map write) ++ close :: rest) =
      some (x :: xs, rest) := by
  obtain ⟨hspace, halpha, hcomma⟩ := of_mem_closers hclose
  have hx := h x List.mem_cons_self
  induction xs generalizing x with
  | nil =>
    rw [itemsUntil]
    simp [hx.read_cons halpha, skipSpace_cons hspace]
  | cons y ys ih =>
    have hy := h y (List.mem_cons_of_mem _ List.mem_cons_self)
    have hys := ih y (fun z hz => h z (List.mem_cons_of_mem _ hz)) hy
    have hnext := skipSpace_intercalate y ys hy (close :: rest)
    rw [List.map_cons, List.map_cons, List.intercalate_cons_cons, ← List.map_cons,
      List.append_assoc, List.append_assoc, List.singleton_append, itemsUntil,
      hx.read_cons (by decide)]
    simp only [skipSpace_cons (show isSpace ',' = false from rfl), if_neg hcomma, if_true, hnext,
      hys]
    rw [if_pos (by simp; omega)]
    rfl

/-- A list of things is read back from their texts with commas between them. -/
theorem bracketed_intercalate (hclose : close ∈ closers) (xs : List α)
    (h : ∀ y ∈ xs, ReadsBack item (write y) y) (rest : List Char) :
    bracketed item close (List.intercalate [','] (xs.map write) ++ close :: rest) =
      some (xs, rest) := by
  cases xs with
  | nil =>
    have hspace := (of_mem_closers hclose).1
    simp [bracketed, skipSpace_cons hspace]
  | cons x xs =>
    have hx := h x List.mem_cons_self
    have hread := itemsUntil_intercalate hclose x xs h rest
    rw [bracketed, skipSpace_intercalate x xs hx]
    -- the first character of the list is that of its first item, which is no bracket
    obtain ⟨t, ht⟩ := exists_intercalate_eq write x xs
    obtain ⟨c, s, hs, -, hc⟩ := hx.first
    have hne : c ≠ close := fun he => hc (he ▸ hclose)
    rw [ht, hs, List.cons_append, List.cons_append] at hread ⊢
    simp only [if_neg hne, hread]

end Lists

namespace Value

/-- The text of a field of an object. -/
def fieldText (field : String × Value) : List Char := stringChars field.1 ++ ':' :: field.2.chars

theorem itemChars_eq (items : List Value) :
    itemChars items = List.intercalate [','] (items.map chars) := by
  induction items with
  | nil => simp [itemChars]
  | cons item rest ih =>
    cases rest with
    | nil => simp [itemChars]
    | cons next rest =>
      rw [itemChars, ih]
      · simp [List.intercalate_cons_cons]
      · simp

theorem fieldChars_eq (fields : List (String × Value)) :
    fieldChars fields = List.intercalate [','] (fields.map fieldText) := by
  induction fields with
  | nil => simp [fieldChars]
  | cons field rest ih =>
    obtain ⟨key, v⟩ := field
    cases rest with
    | nil => simp [fieldChars, fieldText]
    | cons next rest =>
      rw [fieldChars, ih]
      · simp [fieldText, List.intercalate_cons_cons]
      · simp

/-- No numbers, distinct keys in each object, and arrays and objects at most `depth` deep. -/
inductive Plain : Nat → Value → Prop
  | null {depth : Nat} : Plain depth null
  | bool {depth : Nat} (b : Bool) : Plain depth (bool b)
  | string {depth : Nat} (s : String) : Plain depth (string s)
  | array {depth : Nat} {items : List Value} (h : ∀ v ∈ items, Plain depth v) :
    Plain (depth + 1) (array items)
  | object {depth : Nat} {fields : List (String × Value)} (hn : (Fields.keys fields).Nodup)
    (h : ∀ field ∈ fields, Plain depth field.2) : Plain (depth + 1) (object fields)

end Value

section Values

variable {depth : Nat}

/-- The first characters of the words. -/
def wordStarts : List Char := ['n', 't', 'f']

theorem value_of_mem_wordStarts {c : Char} (hc : c ∈ wordStarts) (rest : List Char) :
    value depth (c :: rest) = word? (c :: rest) := by
  unfold value
  simp only [wordStarts, List.mem_cons, List.not_mem_nil, or_false] at hc
  rcases hc with rfl | rfl | rfl <;> simp

/-- A word goes up to the first character that is no letter. -/
theorem word?_append {word rest : List Char} (hword : ∀ c ∈ word, c.isAlpha)
    (hrest : ∀ c ∈ rest.head?, c.isAlpha = false) :
    word? (word ++ rest) = (word? word).map fun (v, _) => (v, rest) := by
  have htake : (word ++ rest).takeWhile Char.isAlpha = word.takeWhile Char.isAlpha := by
    rw [List.takeWhile_append_of_pos hword, List.takeWhile_eq_self_iff.mpr hword]
    cases rest with
    | nil => simp
    | cons c rest => simp [hrest c rfl]
  have hdrop : (word ++ rest).dropWhile Char.isAlpha = rest := by
    rw [List.dropWhile_append_of_pos hword]
    cases rest with
    | nil => simp
    | cons c rest => simp [hrest c rfl]
  rw [word?, word?, htake, hdrop]
  dsimp only
  split_ifs <;> rfl

theorem word_readsBack {c : Char} {word : List Char} {v : Value} (hc : c ∈ wordStarts)
    (hword : ∀ d ∈ c :: word, d.isAlpha) (hv : word? (c :: word) = some (v, [])) :
    ReadsBack (value depth) (c :: word) v := by
  refine ⟨⟨c, word, rfl, ?_⟩, fun rest hrest => ?_⟩
  · simp only [wordStarts, List.mem_cons, List.not_mem_nil, or_false] at hc
    rcases hc with rfl | rfl | rfl <;> decide
  · rw [List.cons_append, value_of_mem_wordStarts hc, ← List.cons_append,
      word?_append hword hrest, hv]
    rfl

theorem stringChars_readsBack (s : String) :
    ReadsBack (value depth) (stringChars s) (.string s) where
  first := ⟨'"', _, rfl, by decide, by decide⟩
  read_append rest _ := by
    rw [stringChars, List.cons_append, List.append_assoc, List.singleton_append]
    unfold value
    simp [decode?_encode]

theorem fieldText_readsBack {field : String × Value}
    (h : ReadsBack (value depth) field.2.chars field.2) :
    ReadsBack (member (value depth)) (Value.fieldText field) field where
  first := ⟨'"', _, rfl, by decide, by decide⟩
  read_append rest hrest := by
    obtain ⟨key, v⟩ := field
    rw [Value.fieldText, stringChars, List.append_assoc, List.cons_append, List.cons_append,
      List.append_assoc, List.singleton_append]
    simp [member, decode?_encode, skipSpace_cons (show isSpace ':' = false from rfl),
      h.skipSpace_append, h.read_append rest hrest]

/-- A value without numbers is read back from its text. -/
theorem Value.Plain.readsBack {v : Value} (h : v.Plain depth) :
    ReadsBack (value depth) v.chars v := by
  induction h with
  | null => exact word_readsBack (by decide) (List.all_eq_true.mp rfl) rfl
  | bool b => cases b <;> exact word_readsBack (by decide) (List.all_eq_true.mp rfl) rfl
  | string s => exact stringChars_readsBack s
  | @array depth items _ ih =>
    refine ⟨⟨'[', _, by rw [chars], by decide, by decide⟩, fun rest _ => ?_⟩
    have hitems := bracketed_intercalate (by decide : ']' ∈ closers) items ih rest
    rw [chars, List.cons_append, List.append_assoc, List.singleton_append, itemChars_eq]
    simp [value, hitems]
  | @object depth fields hn _ ih =>
    refine ⟨⟨'\x7b', _, by rw [chars], by decide, by decide⟩, fun rest _ => ?_⟩
    have hfields := bracketed_intercalate (by decide : '\x7d' ∈ closers) fields
      (fun field hf => fieldText_readsBack (ih field hf)) rest
    rw [chars, List.cons_append, List.append_assoc, List.singleton_append, fieldChars_eq]
    simp [value, hfields, Fields.ofList_of_nodup hn]

theorem parse?_text {v : Value} (h : v.Plain maxDepth) : parse? v.text = some v := by
  have hread := h.readsBack.read_append [] (by simp)
  have hskip := h.readsBack.skipSpace_append []
  rw [List.append_nil] at hread hskip
  rw [parse?, Value.text, String.toList_ofList, hskip, hread]
  rfl

end Values

end Json

end NativeStubs
