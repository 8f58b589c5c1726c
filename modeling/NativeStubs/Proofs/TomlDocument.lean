import NativeStubs.Config.Document
import NativeStubs.Proofs.Fields
import NativeStubs.Proofs.TomlText

/-! # Reading configuration documents back

A document of settings is a heading of comments and one entry for each setting: a bare key and a
text or a list of texts. It is read as the table that has the value of each setting under its key.
-/

namespace NativeStubs

namespace Toml

variable {c : Char} {s rest : List Char}

section Blanks

theorem skipTrivia_of_dropBlankLines (h : dropBlankLines s = c :: rest) (hc : c ≠ '#') :
    skipTrivia s = some (c :: rest) := by
  rw [skipTrivia, h]
  split
  · simp_all
  · rfl

theorem skipTrivia_cons (hc : c ∉ [' ', '\t', '\n', '\r', '#']) (s : List Char) :
    skipTrivia (c :: s) = some (c :: s) := by
  simp only [List.mem_cons, List.not_mem_nil, or_false, not_or] at hc
  obtain ⟨hspace, htab, hfeed, hreturn, hhash⟩ := hc
  refine skipTrivia_of_dropBlankLines ?_ hhash
  unfold dropBlankLines
  split <;> simp_all

theorem skipBlanks_cons (hc : isBlank c = false) : skipBlanks (c :: s) = c :: s := by
  simp [skipBlanks, hc]

theorem skipComment_append (h : ∀ c ∈ s, c ≠ '\n' ∧ isControl c = false) (rest : List Char) :
    skipComment (s ++ '\n' :: rest) = some ('\n' :: rest) := by
  induction s with
  | nil => rfl
  | cons c s ih =>
    obtain ⟨⟨hfeed, hcontrol⟩, hs⟩ := List.forall_mem_cons.mp h
    have hreturn : c ≠ '\r' := by
      rintro rfl
      cases hcontrol
    rw [List.cons_append]
    unfold skipComment
    split <;> simp_all

end Blanks

section Values

/-- What a text in a document may be followed by. -/
def enders : List Char := ['\n', ',', ']']

theorem encode_eq (s : List Char) : ∃ c t, encode s = c :: t ∧ (c = '"' ∨ c = '\'') := by
  unfold encode Form.write
  cases Form.choose s
  · exact ⟨_, _, rfl, Or.inl rfl⟩
  · exact ⟨_, _, rfl, Or.inr rfl⟩
  · exact ⟨_, _, rfl, Or.inl rfl⟩
  · exact ⟨_, _, rfl, Or.inr rfl⟩

theorem value?_encode (depth : Nat) (s : String) (hc : c ∈ enders) (rest : List Char) :
    value? depth (encode s.toList ++ c :: rest) = some (.string s, c :: rest) := by
  have hread : string? (encode s.toList ++ c :: rest) = some (s.toList, c :: rest) := by
    refine string?_encode s.toList fun d hd => ?_
    obtain rfl := Option.some.inj hd
    simp only [enders, List.mem_cons, List.not_mem_nil, or_false] at hc
    rcases hc with rfl | rfl | rfl <;> decide
  obtain ⟨quote, t, ht, hquote⟩ := encode_eq s.toList
  rw [ht, List.cons_append] at hread ⊢
  unfold value?
  simp [hquote, hread]

theorem skipTrivia_encode (s rest : List Char) :
    skipTrivia (encode s ++ rest) = some (encode s ++ rest) := by
  obtain ⟨quote, t, ht, hquote⟩ := encode_eq s
  rw [ht, List.cons_append]
  rcases hquote with rfl | rfl <;> exact skipTrivia_cons (by decide) _

end Values

section Lists

variable {α : Type} {item : Reader α} {x : α} {close : Char} {t next : List Char}

theorem itemsUntil_eq (h : skipTrivia s = some (c :: t)) :
    itemsUntil item close s =
      if c = close then some ([], t)
      else match item (c :: t) with
        | none => none
        | some (x, after) =>
          match skipTrivia after with
          | none | some [] => none
          | some (c :: next) =>
            if c = close then some ([x], next)
            else if c = ',' ∧ next.length < s.length then
              (itemsUntil item close next).map fun (xs, r) => (x :: xs, r)
            else none := by
  rw [itemsUntil]
  split
  · simp_all
  · simp_all
  · next h' =>
    obtain ⟨rfl, rfl⟩ := List.cons.inj (Option.some.inj (h.symm.trans h'))
    rfl

theorem itemsUntil_close (h : skipTrivia s = some (close :: rest)) :
    itemsUntil item close s = some ([], rest) := by
  rw [itemsUntil_eq h, if_pos rfl]

theorem itemsUntil_last (h : skipTrivia s = some (c :: t)) (hc : c ≠ close)
    (hitem : item (c :: t) = some (x, close :: rest))
    (hclose : skipTrivia (close :: rest) = some (close :: rest)) :
    itemsUntil item close s = some ([x], rest) := by
  rw [itemsUntil_eq h, if_neg hc]
  simp [hitem, hclose]

theorem itemsUntil_comma (h : skipTrivia s = some (c :: t)) (hc : c ≠ close)
    (hitem : item (c :: t) = some (x, ',' :: next)) (hclose : ',' ≠ close)
    (hnext : next.length < s.length) :
    itemsUntil item close s =
      (itemsUntil item close next).map fun (xs, r) => (x :: xs, r) := by
  have hskip : skipTrivia (',' :: next) = some (',' :: next) := skipTrivia_cons (by decide) next
  rw [itemsUntil_eq h, if_neg hc]
  simp [hitem, hskip, hclose, hnext]

theorem itemsUntil_encode (depth : Nat) (s : String) (rest : List Char) :
    itemsUntil (value? depth) ']' (encode s.toList ++ ']' :: rest) = some ([.string s], rest) := by
  have hvalue := value?_encode depth s (by decide : ']' ∈ enders) rest
  have hskip := skipTrivia_encode s.toList (']' :: rest)
  obtain ⟨quote, t, ht, hquote⟩ := encode_eq s.toList
  have hclose : quote ≠ ']' := by
    rcases hquote with rfl | rfl <;> decide
  rw [ht, List.cons_append] at hvalue hskip ⊢
  exact itemsUntil_last hskip hclose hvalue (skipTrivia_cons (by decide) rest)

/-- The lines of a list, from the end of the line above on. -/
def listLines (items : List String) : List Char :=
  '\n' :: items.flatMap fun s => "    ".toList ++ encode s.toList ++ ",\n".toList

theorem listLines_cons (s : String) (items : List String) :
    listLines (s :: items) =
      '\n' :: ' ' :: ' ' :: ' ' :: ' ' :: (encode s.toList ++ ',' :: listLines items) := by
  simp [listLines]

theorem itemsUntil_listLines (depth : Nat) (items : List String) (rest : List Char) :
    itemsUntil (value? depth) ']' (listLines items ++ ']' :: rest) =
      some (items.map .string, rest) := by
  -- after each comma the reader stands at the end of a line, where the list of the rest begins
  induction items with
  | nil => exact itemsUntil_close (skipTrivia_of_dropBlankLines rfl (by decide))
  | cons s items ih =>
    have hvalue := value?_encode depth s (by decide : ',' ∈ enders) (listLines items ++ ']' :: rest)
    obtain ⟨quote, t, ht, hquote⟩ := encode_eq s.toList
    have hblanks : skipTrivia (listLines (s :: items) ++ ']' :: rest) =
        some (quote :: (t ++ ',' :: (listLines items ++ ']' :: rest))) := by
      rw [listLines_cons, ht]
      simp only [List.cons_append, List.append_assoc]
      rcases hquote with rfl | rfl <;> exact skipTrivia_of_dropBlankLines rfl (by decide)
    have hclose : quote ≠ ']' := by
      rcases hquote with rfl | rfl <;> decide
    rw [ht, List.cons_append] at hvalue
    rw [itemsUntil_comma hblanks hclose hvalue (by decide), ih]
    · rfl
    · rw [listLines_cons]
      simp only [List.length_append, List.length_cons]
      omega

theorem value?_array (depth : Nat) (rest : List Char) :
    value? (depth + 1) ('[' :: rest) =
      (itemsUntil (value? depth) ']' rest).map fun (items, r) => (.array false items, r) := by
  rw [value?]
  rfl

end Lists

section Lines

theorem lines?_of_lineEnd (h : lineEnd? s = some rest) (hlt : rest.length < s.length) :
    lines? s = lines? rest := by
  have hne : s ≠ [] := List.ne_nil_of_length_pos (Nat.zero_lt_of_lt hlt)
  rw [lines?, h]
  simp [hne, hlt]

theorem lines?_of_line {line : Line} {after : List Char} (hend : lineEnd? s = none)
    (hline : line? (skipBlanks s) = some (line, after)) (hafter : lineEnd? after = some rest)
    (hlt : rest.length < s.length) : lines? s = (lines? rest).map (line :: ·) := by
  have hne : s ≠ [] := List.ne_nil_of_length_pos (Nat.zero_lt_of_lt hlt)
  rw [lines?, hend, hline]
  simp [hne, hafter, hlt]

theorem lineEnd?_eq_none (hblank : isBlank c = false) (hhash : c ≠ '#') (hfeed : c ≠ '\n')
    (hreturn : c ≠ '\r') : lineEnd? (c :: s) = none := by
  simp [lineEnd?, skipBlanks_cons hblank, hhash, hfeed, hreturn]

theorem line?_of_ne (hc : c ≠ '[') :
    line? (c :: s) =
      (pair? (value? maxDepth) (c :: s)).map fun ((path, v), rest) => (.pair path v, rest) := by
  unfold line?
  split
  · exact absurd (List.cons.inj ‹_›).1 hc
  · exact absurd (List.cons.inj ‹_›).1 hc
  · rfl

theorem lines?_blank (rest : List Char) : lines? ('\n' :: rest) = lines? rest :=
  lines?_of_lineEnd rfl (by simp)

theorem lines?_comment (h : ∀ c ∈ s, c ≠ '\n' ∧ isControl c = false) (rest : List Char) :
    lines? ('#' :: (s ++ '\n' :: rest)) = lines? rest := by
  refine lines?_of_lineEnd ?_ (by simp; omega)
  rw [lineEnd?, skipBlanks_cons (by decide)]
  simp only [skipComment_append h]

end Lines

end Toml

namespace Config

open Toml

/-- The value that a setting is written as. -/
def Setting.value : Setting → Toml.Value
  | text s => .string s
  | list items => .array false (items.map .string)

theorem toList_stringText (s : String) : (stringText s).toList = encode s.toList :=
  String.toList_ofList

theorem Setting.toList_write_singleton (s : String) :
    (list [s]).write.toList = '[' :: (encode s.toList ++ [']']) := by
  simp [write, toList_stringText]

theorem Setting.toList_write_list {items : List String} (h : 2 ≤ items.length) :
    (list items).write.toList = '[' :: (listLines items ++ [']']) := by
  match items, h with
  | s :: s' :: items, _ =>
    simp [write, listLines, toList_stringText, List.flatMap_map]

theorem value?_write (depth : Nat) (setting : Setting) (rest : List Char) :
    value? (depth + 1) (setting.write.toList ++ '\n' :: rest) =
      some (setting.value, '\n' :: rest) := by
  match setting with
  | .text s =>
    rw [Setting.write, toList_stringText]
    exact value?_encode _ s (by decide) rest
  | .list [] =>
    have hitems : itemsUntil (value? depth) ']' (']' :: '\n' :: rest) = some ([], '\n' :: rest) :=
      itemsUntil_close (skipTrivia_cons (by decide) _)
    have hwrite : (Setting.list []).write.toList = ['[', ']'] := rfl
    rw [hwrite, List.cons_append, List.singleton_append, value?_array, hitems]
    rfl
  | .list [s] =>
    rw [Setting.toList_write_singleton, List.cons_append, List.append_assoc,
      List.singleton_append, value?_array, itemsUntil_encode]
    rfl
  | .list (s :: s' :: items) =>
    rw [Setting.toList_write_list (by simp), List.cons_append, List.append_assoc,
      List.singleton_append, value?_array, itemsUntil_listLines]
    rfl

section Entries

variable {field : String × Setting}

/-- A key that needs no quotes. -/
def IsBareKey (key : String) : Prop := key ≠ "" ∧ key.toList.all isKeyChar

theorem IsBareKey.exists_cons {key : String} (h : IsBareKey key) :
    ∃ c t, key.toList = c :: t ∧ isKeyChar c := by
  cases hkey : key.toList with
  | nil => exact absurd (String.toList_eq_nil_iff.mp hkey) h.1
  | cons c t => exact ⟨c, t, rfl, List.all_eq_true.mp h.2 c (hkey ▸ List.mem_cons_self)⟩

theorem ne_of_isKeyChar {c d : Char} (hc : isKeyChar c) (hd : isKeyChar d = false) : c ≠ d := by
  rintro rfl
  exact absurd hc (by simp [hd])

theorem isBlank_of_isKeyChar {c : Char} (hc : isKeyChar c) : isBlank c = false := by
  simp [isBlank, ne_of_isKeyChar hc (rfl : isKeyChar ' ' = false),
    ne_of_isKeyChar hc (rfl : isKeyChar '\t' = false)]

theorem key?_append {key : String} (h : IsBareKey key) (rest : List Char) :
    key? (key.toList ++ ' ' :: rest) = some (key, ' ' :: rest) := by
  have htake : (key.toList ++ ' ' :: rest).takeWhile isKeyChar = key.toList := by
    rw [List.takeWhile_append_of_pos (List.all_eq_true.mp h.2)]
    simp [isKeyChar]
  have hdrop : (key.toList ++ ' ' :: rest).dropWhile isKeyChar = ' ' :: rest := by
    rw [List.dropWhile_append_of_pos (List.all_eq_true.mp h.2)]
    simp [isKeyChar]
  obtain ⟨c, t, hkey, hc⟩ := h.exists_cons
  unfold key?
  split
  · simp_all [isKeyChar]
  · simp_all [isKeyChar]
  · simp [htake, hdrop, h.1]

theorem keyPath?_append {key : String} (h : IsBareKey key) (rest : List Char) :
    keyPath? (key.toList ++ ' ' :: '=' :: rest) = some (⟨[], key⟩, '=' :: rest) := by
  have hblanks : skipBlanks (' ' :: '=' :: rest) = '=' :: rest := rfl
  have hkeys : dottedKeys? (key.toList ++ ' ' :: '=' :: rest) = some (⟨[], key⟩, '=' :: rest) := by
    rw [dottedKeys?, key?_append h]
    simp [hblanks]
  rw [keyPath?, hkeys]
  rfl

/-- The line of a setting in a document. -/
def entryLine (field : String × Setting) : List Char :=
  field.1.toList ++ ' ' :: '=' :: ' ' :: (field.2.write.toList ++ ['\n'])

theorem Setting.exists_write_cons (setting : Setting) :
    ∃ c t, setting.write.toList = c :: t ∧ isBlank c = false := by
  match setting with
  | text s =>
    obtain ⟨quote, t, ht, hquote⟩ := encode_eq s.toList
    refine ⟨quote, t, by rw [write, toList_stringText, ht], ?_⟩
    rcases hquote with rfl | rfl <;> decide
  | list [] => exact ⟨'[', _, rfl, by decide⟩
  | list [s] => exact ⟨'[', _, toList_write_singleton s, by decide⟩
  | list (s :: s' :: items) => exact ⟨'[', _, toList_write_list (by simp), by decide⟩

/-- An entry starts with the first character of its key. -/
theorem entryLine_eq_cons (h : IsBareKey field.1) (rest : List Char) :
    ∃ c t, entryLine field ++ rest = c :: t ∧ isKeyChar c := by
  obtain ⟨c, t, hkey, hc⟩ := h.exists_cons
  exact ⟨c, _, by rw [entryLine, hkey, List.cons_append, List.cons_append], hc⟩

theorem pair?_entryLine (h : IsBareKey field.1) (rest : List Char) :
    pair? (value? maxDepth) (entryLine field ++ rest) =
      some ((⟨[], field.1⟩, field.2.value), '\n' :: rest) := by
  obtain ⟨key, setting⟩ := field
  obtain ⟨c, t, hwrite, hc⟩ := setting.exists_write_cons
  have hkeys := keyPath?_append h (' ' :: (setting.write.toList ++ '\n' :: rest))
  have hblanks : skipBlanks (' ' :: (setting.write.toList ++ '\n' :: rest)) =
      setting.write.toList ++ '\n' :: rest := by
    rw [hwrite]
    exact skipBlanks_cons hc
  have hvalue : value? maxDepth (setting.write.toList ++ '\n' :: rest) =
      some (setting.value, '\n' :: rest) := value?_write 79 setting rest
  simp only [entryLine, List.append_assoc, List.cons_append]
  simp [pair?, hkeys, hblanks, hvalue]

theorem lines?_entryLine (h : IsBareKey field.1) (rest : List Char) :
    lines? (entryLine field ++ rest) =
      (lines? rest).map (Line.pair ⟨[], field.1⟩ field.2.value :: ·) := by
  have hpair := pair?_entryLine h rest
  have hlength : rest.length < (entryLine field ++ rest).length := by
    simp only [entryLine, List.length_append, List.length_cons]
    omega
  obtain ⟨c, t, hcons, hc⟩ := entryLine_eq_cons h rest
  rw [hcons] at hpair hlength ⊢
  have hblank := isBlank_of_isKeyChar hc
  refine lines?_of_line ?_ ?_ (rfl : lineEnd? ('\n' :: rest) = some rest) hlength
  · exact lineEnd?_eq_none hblank (ne_of_isKeyChar hc rfl) (ne_of_isKeyChar hc rfl)
      (ne_of_isKeyChar hc rfl)
  · rw [skipBlanks_cons hblank, line?_of_ne (ne_of_isKeyChar hc rfl), hpair]
    rfl

theorem lines?_entries (settings : List (String × Setting))
    (h : ∀ field ∈ settings, IsBareKey field.1) :
    lines? (settings.flatMap entryLine) =
      some (settings.map fun field => .pair ⟨[], field.1⟩ field.2.value) := by
  induction settings with
  | nil =>
    rw [List.flatMap_nil, lines?]
    rfl
  | cons field rest ih =>
    obtain ⟨hfield, hrest⟩ := List.forall_mem_cons.mp h
    rw [List.flatMap_cons, lines?_entryLine hfield, ih hrest]
    rfl

end Entries

section Documents

theorem toList_document (settings : List (String × Setting)) :
    (document settings).toList = heading.toList ++ settings.flatMap entryLine := by
  have hline (field : String × Setting) :
      (field.1 ++ " = " ++ field.2.write ++ "\n").toList = entryLine field := by
    simp [entryLine]
  simp only [document, String.toList_append, String.toList_join, List.flatMap_map, hline]

theorem toList_heading :
    heading.toList = '#' :: (" natdoc configuration".toList ++ '\n' ::
      '#' :: (" Remove a key to fall back to its default".toList ++ ['\n', '\n'])) := by
  simp [heading]

theorem lines?_heading (rest : List Char) : lines? (heading.toList ++ rest) = lines? rest := by
  simp only [toList_heading, List.cons_append, List.append_assoc, List.nil_append]
  rw [lines?_comment (by simp [isControl]), lines?_comment (by simp [isControl]), lines?_blank]

/-- The table that settings stand for. -/
def table (settings : List (String × Setting)) : Entries :=
  settings.map fun field => (field.1, field.2.value)

theorem addAll_table (settings : List (String × Setting)) (entries : Entries)
    (hn : (Fields.keys (entries ++ table settings)).Nodup) :
    Entries.addAll entries (settings.map fun field => (⟨[], field.1⟩, field.2.value)) =
      some (entries ++ table settings) := by
  induction settings generalizing entries with
  | nil => simp [Entries.addAll, table]
  | cons field rest ih =>
    have hk : entries.get? field.1 = none := Fields.get?_eq_none_of_nodup hn
    have hadd : entries.add ⟨[], field.1⟩ field.2.value =
        some (entries ++ [(field.1, field.2.value)]) := by
      rw [← Fields.insert_of_get?_eq_none hk]
      simp [Entries.add, Entries.update, Entries.addKey, hk]
    have happend : entries ++ table (field :: rest) =
        entries ++ [(field.1, field.2.value)] ++ table rest := by
      simp [table]
    rw [happend] at hn ⊢
    rw [← ih _ hn]
    simp only [Entries.addAll, List.map_cons, List.foldlM_cons, hadd]
    rfl

theorem sections_pairs (pairs : List (KeyPath × Toml.Value)) :
    sections (pairs.map fun (path, v) => .pair path v) = (pairs, []) := by
  induction pairs with
  | nil => rfl
  | cons pair rest ih => rw [List.map_cons, sections, ih]

/-- A document is read as the table of its settings. -/
theorem parse?_document {settings : List (String × Setting)}
    (hbare : ∀ field ∈ settings, IsBareKey field.1) (hn : (Fields.keys settings).Nodup) :
    Toml.parse? (document settings) = some (table settings) := by
  have hlines : lines? (document settings).toList =
      some ((settings.map fun field => (⟨[], field.1⟩, field.2.value)).map fun (path, v) =>
        Line.pair path v) := by
    rw [toList_document, lines?_heading, lines?_entries settings hbare, List.map_map]
    rfl
  have hkeys : (Fields.keys ([] ++ table settings)).Nodup := by
    simpa [Fields.keys, table, Function.comp_def] using hn
  have hparse : Toml.parse? (document settings) =
      (lines? (document settings).toList).bind ofLines? := by
    rw [Toml.parse?, toList_document, toList_heading]
    rfl
  rw [hparse, hlines, Option.bind_some, ofLines?, sections_pairs]
  dsimp only
  rw [addAll_table settings [] hkeys]
  rfl

end Documents

end Config

end NativeStubs
