/-!
# Blank characters and trimming

A character is blank when it has the Unicode property `White_Space`. Names, assignees, reasons and
business terms are trimmed of blanks before they are judged; the zero-width space and the byte
order mark are not blank.

Key definitions: `isBlankChar`, `trim`, `IsBlank`.
-/

namespace DataGovernance.Text

/-- The characters with the Unicode property `White_Space`. -/
def isBlankChar (c : Char) : Bool :=
  let n := c.toNat
  (9 ≤ n && n ≤ 13) || n == 0x20 || n == 0x85 || n == 0xA0 || n == 0x1680 ||
    (0x2000 ≤ n && n ≤ 0x200A) || n == 0x2028 || n == 0x2029 || n == 0x202F || n == 0x205F ||
    n == 0x3000

/-- Drops the blanks at the front. -/
def trimStart (cs : List Char) : List Char := cs.dropWhile isBlankChar

/-- Drops the blanks at the end. -/
def trimEnd (cs : List Char) : List Char := (cs.reverse.dropWhile isBlankChar).reverse

/-- Drops the blanks at both ends. -/
def trim (cs : List Char) : List Char := trimEnd (trimStart cs)

/-- A text without its leading and trailing blanks. -/
def trimmed (s : String) : String := String.ofList (trim s.toList)

/-- A text is blank when every character of it is. -/
def isBlank (s : String) : Bool := s.toList.all isBlankChar

end DataGovernance.Text
