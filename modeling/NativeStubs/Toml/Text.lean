import NativeStubs.Text.Hex

/-! # TOML strings

A string is written in the first of its forms that needs no escape: basic, literal, and the two
forms on several lines, between triple quotes. If none does, a string with line feeds is written
on several lines and every other one on one line, with escapes. Basic strings escape tabs in any
case.
-/

namespace NativeStubs

namespace Toml

/-- A character that only an escape can stand for, tab and line feed apart. -/
def isControl (c : Char) : Bool :=
  (c.toNat < 0x20 && c != '\t' && c != '\n') || c.toNat == 0x7F

/-- A quote stands three times in a row. -/
def hasTriple (quote : Char) : List Char → Bool
  | a :: b :: c :: s =>
    (a == quote && b == quote && c == quote) || hasTriple quote (b :: c :: s)
  | _ => false

inductive Form
  | basic
  | literal
  | multiBasic
  | multiLiteral
  deriving DecidableEq, Repr

/-- The form that a string is written in. -/
def Form.choose (s : List Char) : Form :=
  let plain := !s.any isControl
  let oneLine := !s.contains '\n'
  if plain && oneLine && !s.contains '"' && !s.contains '\\' then basic
  else if plain && oneLine && !s.contains '\'' then literal
  else if plain && !s.contains '\\' && !hasTriple '"' s then multiBasic
  else if plain && !hasTriple '\'' s then multiLiteral
  else if oneLine then basic
  else multiBasic

/-- The number of quotes in a row that need no escape. -/
def Form.quoteLimit : Form → Nat
  | multiBasic => 2
  | _ => 0

/-- The escape of a character in a basic string, a quote apart. -/
def escapeChar? (form : Form) (c : Char) : Option (List Char) :=
  if c = '\x08' then some ['\\', 'b']
  else if c = '\t' then some ['\\', 't']
  else if c = '\n' then if form = .multiBasic then none else some ['\\', 'n']
  else if c = '\x0c' then some ['\\', 'f']
  else if c = '\r' then some ['\\', 'r']
  else if c = '\\' then some ['\\', '\\']
  else if isControl c then some ('\\' :: 'u' :: Text.hex4 Text.upperDigit c.toNat)
  else none

/-- The characters of a basic string with their escapes. `run` counts the quotes just before. -/
def escapeFrom (form : Form) : (run : Nat) → List Char → List Char
  | _, [] => []
  | run, c :: s =>
    if c = '"' then
      if run < form.quoteLimit then '"' :: escapeFrom form (run + 1) s
      else '\\' :: '"' :: escapeFrom form 0 s
    else match escapeChar? form c with
      | some escape => escape ++ escapeFrom form 0 s
      | none => c :: escapeFrom form 0 s

/-- A string in one of its forms. A line feed comes after triple quotes if the string has any. -/
def Form.write (form : Form) (s : List Char) : List Char :=
  let first := if s.contains '\n' then ['\n'] else []
  match form with
  | basic => '"' :: (escapeFrom basic 0 s ++ ['"'])
  | literal => '\'' :: (s ++ ['\''])
  | multiBasic => ['"', '"', '"'] ++ first ++ escapeFrom multiBasic 0 s ++ ['"', '"', '"']
  | multiLiteral => ['\'', '\'', '\''] ++ first ++ s ++ ['\'', '\'', '\'']

def encode (s : List Char) : List Char := (Form.choose s).write s

/-- The character of a two-character escape. -/
def shortEscape? : Char → Option Char
  | '"' => some '"'
  | '\\' => some '\\'
  | 'b' => some '\x08'
  | 'e' => some '\x1b'
  | 'f' => some '\x0c'
  | 'n' => some '\n'
  | 'r' => some '\r'
  | 't' => some '\t'
  | _ => none

/-- The number of hexadecimal digits in an escape by number. -/
def escapeWidth? : Char → Option Nat
  | 'x' => some 2
  | 'u' => some 4
  | 'U' => some 8
  | _ => none

def escape? : List Char → Option (Char × Nat)
  | [] => none
  | c :: rest =>
    match escapeWidth? c with
    | some width => ((Text.hexNumber? width rest).bind Text.charOfNat?).map (·, width + 1)
    | none => (shortEscape? c).map (·, 1)

def basic? (s : List Char) : Option (List Char × List Char) :=
  match s with
  | [] => none
  | c :: rest =>
    if c = '"' then some ([], rest)
    else if c = '\\' then
      match escape? rest with
      | none => none
      | some (e, n) => (basic? (rest.drop n)).map fun (text, after) => (e :: text, after)
    else if c = '\n' ∨ isControl c then none
    else (basic? rest).map fun (text, after) => (c :: text, after)
termination_by s.length
decreasing_by all_goals simp; try omega

def literal? : List Char → Option (List Char × List Char)
  | [] => none
  | c :: rest =>
    if c = '\'' then some ([], rest)
    else if c = '\n' ∨ isControl c then none
    else (literal? rest).map fun (text, after) => (c :: text, after)

/-- The text without the line end it starts with. -/
def dropLineEnd : List Char → List Char
  | '\n' :: s => s
  | '\r' :: '\n' :: s => s
  | s => s

/-- The text without the blanks and line ends it starts with. -/
def dropBlankLines : List Char → List Char
  | ' ' :: s => dropBlankLines s
  | '\t' :: s => dropBlankLines s
  | '\n' :: s => dropBlankLines s
  | '\r' :: '\n' :: s => dropBlankLines s
  | s => s

/-- A backslash joins lines if only blanks stand between it and the end of its line. -/
def joinsLines (s : List Char) : Bool :=
  match s.dropWhile fun c => c == ' ' || c == '\t' with
  | '\n' :: _ => true
  | '\r' :: '\n' :: _ => true
  | _ => false

/-- The number of times a text starts with a quote. -/
def quoteRun (quote : Char) (s : List Char) : Nat := (s.takeWhile (· == quote)).length

/-- Reads a basic string on several lines, after its opening quotes and the line end that may
follow them. Up to two quotes can stand before the closing ones. -/
def multiBasic? (s : List Char) : Option (List Char × List Char) :=
  match s with
  | [] => none
  | c :: rest =>
    if c = '"' then
      let run := quoteRun '"' s
      if 3 ≤ run then
        let extra := min (run - 3) 2
        some (List.replicate extra '"', s.drop (extra + 3))
      else (multiBasic? rest).map fun (text, after) => ('"' :: text, after)
    else if c = '\\' then
      if joinsLines rest then
        if (dropBlankLines rest).length ≤ rest.length then multiBasic? (dropBlankLines rest)
        else none
      else
        match escape? rest with
        | none => none
        | some (e, n) => (multiBasic? (rest.drop n)).map fun (text, after) => (e :: text, after)
    else if isControl c ∧ ¬ (c = '\r' ∧ rest.head? = some '\n') then none
    else (multiBasic? rest).map fun (text, after) => (c :: text, after)
termination_by s.length
decreasing_by all_goals simp_all; try omega

/-- Reads a literal string on several lines, after its opening quotes and the line end that may
follow them. -/
def multiLiteral? : List Char → Option (List Char × List Char)
  | [] => none
  | c :: rest =>
    let run := quoteRun '\'' (c :: rest)
    if 3 ≤ run then
      let extra := min (run - 3) 2
      some (List.replicate extra '\'', (c :: rest).drop (extra + 3))
    else if isControl c ∧ ¬ (c = '\r' ∧ rest.head? = some '\n') then none
    else (multiLiteral? rest).map fun (text, after) => (c :: text, after)

def string? (s : List Char) : Option (List Char × List Char) :=
  match s with
  | '"' :: '"' :: '"' :: rest => multiBasic? (dropLineEnd rest)
  | '"' :: rest => basic? rest
  | '\'' :: '\'' :: '\'' :: rest => multiLiteral? (dropLineEnd rest)
  | '\'' :: rest => literal? rest
  | _ => none

end Toml

end NativeStubs
