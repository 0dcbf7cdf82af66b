import DataGovernance.Text.Hidden

/-!
# Texts quoted inside a message

A message that quotes a text puts it between double quotes, writes quotes and backslashes with a
backslash, the usual controls as letters, and every other character that would not be seen as its
code point in hexadecimal.

Key definitions: `quote`.
-/

namespace DataGovernance.Text

/-- The code point of a character in lower-case hexadecimal between braces. -/
def codePoint (c : Char) : List Char :=
  ['\\', 'u', '\x7b'] ++ Nat.toDigits 16 c.toNat ++ ['\x7d']

/-- A character inside quotes. -/
def quoteChar (c : Char) : List Char :=
  if c == '"' then ['\\', '"']
  else if c == '\\' then ['\\', '\\']
  else if c == '\n' then ['\\', 'n']
  else if c == '\r' then ['\\', 'r']
  else if c == '\t' then ['\\', 't']
  else if c.toNat == 0 then ['\\', '0']
  else if c.toNat < 0x20 then codePoint c
  else if c.toNat < 0x7F then [c]
  else if isHidden c then codePoint c
  else [c]

/-- A text between double quotes. -/
def quote (s : String) : String :=
  String.ofList ('"' :: s.toList.flatMap quoteChar ++ ['"'])

end DataGovernance.Text
