import NativeStubs.Json.Number
import NativeStubs.Json.Text

/-! # Reading JSON documents

A reader takes what it reads off the front of a text and returns the rest. A document is one value
with blanks around it; values nest at most 127 deep. Between the parts of a value stand blanks:
space, tab and the two line ends.
-/

namespace NativeStubs

namespace Json

/-- Takes a thing off the front of a text. -/
abbrev Reader (α : Type) := List Char → Option (α × List Char)

def isSpace (c : Char) : Bool := c == ' ' || c == '\t' || c == '\n' || c == '\r'

def skipSpace (s : List Char) : List Char := s.dropWhile isSpace

def isNumberChar (c : Char) : Bool :=
  c.isDigit || c == '-' || c == '+' || c == '.' || c == 'e' || c == 'E'

def word? : Reader Value := fun s =>
  let word := s.takeWhile Char.isAlpha
  let rest := s.dropWhile Char.isAlpha
  if word = ['n', 'u', 'l', 'l'] then some (.null, rest)
  else if word = ['t', 'r', 'u', 'e'] then some (.bool true, rest)
  else if word = ['f', 'a', 'l', 's', 'e'] then some (.bool false, rest)
  else none

/-- A number, as long as it can get. -/
def number? : Reader Value := fun s =>
  ((Numeral.ofChars? (s.takeWhile isNumberChar)).bind Numeral.value?).map fun n =>
    (.number n, s.dropWhile isNumberChar)

/-- One or more items with commas between them, up to the closing bracket. -/
def itemsUntil {α : Type} (item : Reader α) (close : Char) (s : List Char) :
    Option (List α × List Char) :=
  match item s with
  | none => none
  | some (x, rest) =>
    match skipSpace rest with
    | [] => none
    | c :: after =>
      if c = close then some ([x], after)
      else if c = ',' then
        let next := skipSpace after
        if next.length < s.length then
          (itemsUntil item close next).map fun (xs, r) => (x :: xs, r)
        else none
      else none
termination_by s.length

/-- Any number of items with commas between them, after the opening and up to the closing
bracket. -/
def bracketed {α : Type} (item : Reader α) (close : Char) : Reader (List α) := fun s =>
  match skipSpace s with
  | [] => none
  | c :: rest => if c = close then some ([], rest) else itemsUntil item close (c :: rest)

def member (value : Reader Value) : Reader (String × Value) := fun s =>
  match s with
  | '"' :: rest =>
    match decode? rest with
    | none => none
    | some (key, rest) =>
      match skipSpace rest with
      | ':' :: rest => (value (skipSpace rest)).map fun (v, r) => ((String.ofList key, v), r)
      | _ => none
  | _ => none

/-- A value with at most `depth` arrays and objects around any part of it. -/
def value : Nat → Reader Value
  | _, [] => none
  | depth, c :: rest =>
    if c = '"' then (decode? rest).map fun (text, r) => (.string (String.ofList text), r)
    else if c = '[' then
      match depth with
      | 0 => none
      | depth + 1 => (bracketed (value depth) ']' rest).map fun (items, r) => (.array items, r)
    else if c = '\x7b' then
      match depth with
      | 0 => none
      | depth + 1 =>
        (bracketed (member (value depth)) '\x7d' rest).map fun (fields, r) =>
          (.object (Fields.ofList fields), r)
    else if c = '-' ∨ c.isDigit then number? (c :: rest)
    else word? (c :: rest)

/-- The depth to which arrays and objects may nest. -/
def maxDepth : Nat := 127

/-- The value of a document. -/
def parse? (text : String) : Option Value :=
  match value maxDepth (skipSpace text.toList) with
  | some (v, rest) => if (skipSpace rest).isEmpty then some v else none
  | none => none

end Json

end NativeStubs
