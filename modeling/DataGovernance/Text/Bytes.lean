import DataGovernance.Count

/-!
# Texts as bytes

Texts are stored as bytes in UTF-8.

Key definitions: `byteSize`, `takeBytes`, `ofBytes?`.
-/

namespace DataGovernance.Text

/-- The number of bytes of a text. -/
def byteSize (cs : List Char) : Nat := total (cs.map Char.utf8Size)

/-- The longest beginning of a text that has at most `n` bytes. -/
def takeBytes : Nat → List Char → List Char
  | _, [] => []
  | n, c :: cs => if c.utf8Size ≤ n then c :: takeBytes (n - c.utf8Size) cs else []

/-- The text that bytes stand for. -/
def ofBytes? (bytes : List UInt8) : Option String := String.fromUTF8? ⟨bytes.toArray⟩

end DataGovernance.Text
