import DataGovernance.Json.Document

/-!
# JSON values and how they are written

A value is what a program writes: its objects list their members in order, and a number in it is
whole or a decimal, which is written as the binary64 value that it stands for. One writer serves two
styles, the compact one without blanks and the indented one with a line for every item and member.
Inside a string the quote, the backslash and the characters below the space are escaped, and all
others stand for themselves.

Key definitions: `Value`, `Style`, `Value.write`, `Value.compact`, `Value.indented`,
`Document.ofValue`.
-/

namespace DataGovernance.Json

/-- A JSON value. -/
inductive Value where
  | null
  | bool (b : Bool)
  | int (i : Int)
  | real (d : Decimal)
  | str (s : String)
  | list (items : List Value)
  | object (members : List (String × Value))
  deriving Repr, Inhabited

/-- A digit below sixteen, in lower case. -/
def hexChar (d : Nat) : Char := Nat.digitChar (d % 16)

/-- A character inside a string literal. -/
def escapeChar (c : Char) : List Char :=
  if c == '"' then ['\\', '"']
  else if c == '\\' then ['\\', '\\']
  else if c.toNat < 0x20 then
    if c == '\x08' then ['\\', 'b']
    else if c == '\t' then ['\\', 't']
    else if c == '\n' then ['\\', 'n']
    else if c == '\x0C' then ['\\', 'f']
    else if c == '\r' then ['\\', 'r']
    else ['\\', 'u', '0', '0', hexChar (c.toNat / 16), hexChar c.toNat]
  else [c]

/-- A string literal. -/
def writeText (s : String) : List Char := '"' :: s.toList.flatMap escapeChar ++ ['"']

/-- What stands between the brackets, commas, colons and scalars of a written value. -/
structure Style where
  /-- The break before an item, a member or a closing bracket that stands at some depth. -/
  lineBreak : Nat → List Char
  /-- The blanks behind a colon. -/
  afterColon : List Char

namespace Style

/-- No blanks. -/
def compact : Style := ⟨fun _ => [], []⟩

/-- A line for every item and member, indented by two spaces for each depth. -/
def indented : Style := ⟨fun depth => '\n' :: List.replicate (2 * depth) ' ', [' ']⟩

end Style

namespace Value

mutual

/-- Writes a value that stands at some depth. -/
def write (style : Style) (depth : Nat) : Value → List Char
  | null => ['n', 'u', 'l', 'l']
  | bool true => ['t', 'r', 'u', 'e']
  | bool false => ['f', 'a', 'l', 's', 'e']
  | int i => Text.integer i
  | real d => d.text
  | str s => writeText s
  | list [] => ['[', ']']
  | list (v :: rest) =>
    '[' :: style.lineBreak (depth + 1) ++ write style (depth + 1) v ++
      writeItems style (depth + 1) rest ++ style.lineBreak depth ++ [']']
  | object [] => ['\x7b', '\x7d']
  | object ((k, v) :: rest) =>
    '\x7b' :: style.lineBreak (depth + 1) ++ writeText k ++ ':' :: style.afterColon ++
      write style (depth + 1) v ++ writeMembers style (depth + 1) rest ++
      style.lineBreak depth ++ ['\x7d']

/-- Writes the items behind the first one. -/
def writeItems (style : Style) (depth : Nat) : List Value → List Char
  | [] => []
  | v :: rest =>
    ',' :: style.lineBreak depth ++ write style depth v ++ writeItems style depth rest

/-- Writes the members behind the first one. -/
def writeMembers (style : Style) (depth : Nat) : List (String × Value) → List Char
  | [] => []
  | (k, v) :: rest =>
    ',' :: style.lineBreak depth ++ writeText k ++ ':' :: style.afterColon ++
      write style depth v ++ writeMembers style depth rest

end

/-- A value on one line without blanks. -/
def compact (v : Value) : String := String.ofList (v.write .compact 0)

/-- A value on several lines, indented. -/
def indented (v : Value) : String := String.ofList (v.write .indented 0)

/-- The text of an option, or null. -/
def ofOption (text : Option String) : Value :=
  match text with
  | some s => str s
  | none => null

/-- A natural number. -/
def nat (n : Nat) : Value := int n

/-- A list of texts. -/
def texts (ss : List String) : Value := list (ss.map str)

end Value

namespace Document

mutual

/-- The document of a value. -/
def ofValue : Value → Document
  | .null => null
  | .bool b => bool b
  | .int i => num (.int i)
  | .real d => num (.real d)
  | .str s => str s
  | .list items => list (ofItems items)
  | .object members => object (ofMembers members)

/-- The documents of the items of a list. -/
def ofItems : List Value → List Document
  | [] => []
  | v :: rest => ofValue v :: ofItems rest

/-- The keys and documents of the members of an object. -/
def ofMembers : List (String × Value) → List (Document × Document)
  | [] => []
  | (k, v) :: rest => (str k, ofValue v) :: ofMembers rest

end

/-- A value is written without faults. -/
theorem ofValue_ne_fault (v : Value) (f : Fault) : ofValue v ≠ fault f := by
  cases v <;> simp [ofValue]

end Document

end DataGovernance.Json
