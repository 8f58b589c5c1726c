import NativeStubs.Toml.Scalar
import NativeStubs.Toml.Text

/-! # Reading TOML documents

A document is a row of lines: headers of tables and values under their keys, each with a comment
after it or none. Arrays and inline tables may go over several lines and nest at most 80 deep. A key
has at most 80 parts with points between them, wherever it stands. The values below a header belong
to its table.
-/

namespace NativeStubs

namespace Toml

/-- The depth to which arrays and inline tables may nest, and the number of keys that points may
join. -/
def maxDepth : Nat := 80

abbrev Reader (α : Type) := List Char → Option (α × List Char)

def isBlank (c : Char) : Bool := c == ' ' || c == '\t'

def skipBlanks (s : List Char) : List Char := s.dropWhile isBlank

/-- The text from the end of the line on, if a comment may have the characters before it. -/
def skipComment : List Char → Option (List Char)
  | [] => some []
  | '\n' :: s => some ('\n' :: s)
  | '\r' :: '\n' :: s => some ('\n' :: s)
  | c :: s => if isControl c then none else skipComment s

/-- The text after the blanks, line ends and comments that it starts with. -/
def skipTrivia (s : List Char) : Option (List Char) :=
  match dropBlankLines s with
  | '#' :: rest =>
    match skipComment rest with
    | none => none
    | some next => if next.length < s.length then skipTrivia next else none
  | next => some next
termination_by s.length

/-- The text after the rest of the line: blanks, a comment or none, and the line end. -/
def lineEnd? (s : List Char) : Option (List Char) :=
  let comment := match skipBlanks s with
    | '#' :: rest => skipComment rest
    | rest => some rest
  match comment with
  | some [] => some []
  | some ('\n' :: rest) => some rest
  | some ('\r' :: '\n' :: rest) => some rest
  | _ => none

def isKeyChar (c : Char) : Bool := c.isAlphanum || c == '_' || c == '-'

def key? : Reader String := fun s =>
  let quoted (read : Option (List Char × List Char)) : Option (String × List Char) :=
    read.map fun (text, rest) => (String.ofList text, rest)
  match s with
  | '"' :: rest => quoted (basic? rest)
  | '\'' :: rest => quoted (literal? rest)
  | _ =>
    let key := s.takeWhile isKeyChar
    if key.isEmpty then none else some (String.ofList key, s.dropWhile isKeyChar)

/-- Any number of keys with points between them, and the blanks after them. -/
def dottedKeys? (s : List Char) : Option (KeyPath × List Char) :=
  match key? s with
  | none => none
  | some (key, rest) =>
    match skipBlanks rest with
    | '.' :: after =>
      let next := skipBlanks after
      if next.length < s.length then
        (dottedKeys? next).map fun (path, r) => ({ path with tables := key :: path.tables }, r)
      else none
    | rest => some (⟨[], key⟩, rest)
termination_by s.length

/-- At most `maxDepth` keys with points between them, and the blanks after them. -/
def keyPath? : Reader KeyPath := fun s =>
  (dottedKeys? s).filter fun (path, _) => path.tables.length < maxDepth

/-- Any number of items with commas between them, up to the closing bracket. A comma may follow
the last item. -/
def itemsUntil {α : Type} (item : Reader α) (close : Char) (s : List Char) :
    Option (List α × List Char) :=
  match skipTrivia s with
  | none | some [] => none
  | some (c :: rest) =>
    if c = close then some ([], rest)
    else match item (c :: rest) with
      | none => none
      | some (x, after) =>
        match skipTrivia after with
        | none | some [] => none
        | some (c :: next) =>
          if c = close then some ([x], next)
          else if c = ',' ∧ next.length < s.length then
            (itemsUntil item close next).map fun (xs, r) => (x :: xs, r)
          else none
termination_by s.length
decreasing_by simp_all

def pair? (value : Reader Value) : Reader (KeyPath × Value) := fun s =>
  match keyPath? s with
  | some (path, '=' :: rest) => (value (skipBlanks rest)).map fun (v, r) => ((path, v), r)
  | _ => none

/-- A value with at most `depth` arrays and inline tables around any part of it. -/
def value? : Nat → Reader Value
  | _, [] => none
  | depth, c :: rest =>
    if c = '"' ∨ c = '\'' then
      (string? (c :: rest)).map fun (text, r) => (.string (String.ofList text), r)
    else if c = '[' then
      match depth with
      | 0 => none
      | depth + 1 =>
        (itemsUntil (value? depth) ']' rest).map fun (items, r) => (.array false items, r)
    else if c = '\x7b' then
      match depth with
      | 0 => none
      | depth + 1 =>
        (itemsUntil (pair? (value? depth)) '\x7d' rest).bind fun (pairs, r) =>
          (Entries.addAll [] pairs).map fun entries => (.table .inline entries, r)
    else scalar? (c :: rest)

/-- The header of a table or of a table in an array. -/
inductive Header
  | table (path : KeyPath)
  | element (path : KeyPath)

inductive Line
  | pair (path : KeyPath) (v : Value)
  | header (header : Header)

def line? (s : List Char) : Option (Line × List Char) :=
  match s with
  | '[' :: '[' :: rest =>
    match keyPath? (skipBlanks rest) with
    | some (path, ']' :: ']' :: rest) => some (.header (.element path), rest)
    | _ => none
  | '[' :: rest =>
    match keyPath? (skipBlanks rest) with
    | some (path, ']' :: rest) => some (.header (.table path), rest)
    | _ => none
  | _ => (pair? (value? maxDepth) s).map fun ((path, v), rest) => (.pair path v, rest)

def lines? (s : List Char) : Option (List Line) :=
  if s.isEmpty then some []
  else match lineEnd? s with
    | some rest => if rest.length < s.length then lines? rest else none
    | none =>
      match line? (skipBlanks s) with
      | none => none
      | some (line, after) =>
        match lineEnd? after with
        | none => none
        | some rest =>
          if rest.length < s.length then (lines? rest).map (line :: ·) else none
termination_by s.length

abbrev Section := Header × List (KeyPath × Value)

/-- The values before the first header, and the sections from there on. -/
def sections : List Line → List (KeyPath × Value) × List Section
  | [] => ([], [])
  | .pair path v :: rest => ((path, v) :: (sections rest).1, (sections rest).2)
  | .header header :: rest => ([], (header, (sections rest).1) :: (sections rest).2)

/-- Adds a section to the table of the document. -/
def addSection (entries : Entries) : Section → Option Entries
  | (.table path, pairs) => entries.addTable path pairs
  | (.element path, pairs) => entries.addElement path pairs

/-- The table that lines stand for. -/
def ofLines? (lines : List Line) : Option Entries :=
  let (pairs, sections) := sections lines
  (Entries.addAll [] pairs).bind fun entries => sections.foldlM addSection entries

def parse? (text : String) : Option Entries :=
  let s := match text.toList with
    | '\ufeff' :: rest => rest
    | s => s
  (lines? s).bind ofLines?

end Toml

end NativeStubs
