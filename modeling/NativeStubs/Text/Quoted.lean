import NativeStubs.Text.PrintTable

/-! # Quoted text in messages

A text inside a message is written between double quotes. A quote and a backslash are escaped,
so are the tab, the line ends and NUL by their short names, and every character that has no glyph
of its own by its number in lower-case hexadecimal.
-/

namespace NativeStubs

namespace Text

/-- A character that a message may show as it is. -/
def isVisible (c : Char) : Bool :=
  (0x20 ≤ c.toNat && c.toNat < 0x7F) ||
    !(hiddenTable.has c.toNat || extenderTable.has c.toNat)

def quoteChar (c : Char) : List Char :=
  if c = '\x00' then ['\\', '0']
  else if c = '\t' then ['\\', 't']
  else if c = '\n' then ['\\', 'n']
  else if c = '\r' then ['\\', 'r']
  else if c = '"' then ['\\', '"']
  else if c = '\\' then ['\\', '\\']
  else if isVisible c then [c]
  else ['\\', 'u', '\x7b'] ++ Nat.toDigits 16 c.toNat ++ ['\x7d']

def quoted (s : String) : String :=
  String.ofList ('"' :: (s.toList.flatMap quoteChar ++ ['"']))

end Text

end NativeStubs
