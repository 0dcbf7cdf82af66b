import DataGovernance.Text.Bytes

/-!
# Faults of a TOML text

A fault has a place, which is told by what is left of the text there, and may name the construct it
is in, what would have been expected, and a cause. It is shown below the line it stands in.

Key definitions: `Fault`, `Fault.message`.
-/

namespace DataGovernance.Toml

/-- Why a text is no TOML document. -/
structure Fault where
  /-- What is left of the text at the fault. -/
  rest : List Char
  /-- The innermost construct that the fault is in. -/
  inside : Option String := none
  /-- What could have stood at the fault. -/
  expected : List String := []
  cause : Option String := none
  /-- Whether no other reading is tried. -/
  settled : Bool := false
  deriving Repr

/-- A line and a column, from zero. -/
structure Position where
  line : Nat
  column : Nat
  deriving DecidableEq, Repr

/-- The line and the column behind a text. -/
def Position.behind (cs : List Char) : Position :=
  ⟨cs.count '\n', (cs.reverse.takeWhile (· ≠ '\n')).length⟩

/-- The position of a place in a text. Columns count characters, but bytes when the character at the
place has several; the end of the text is one column past its last character. -/
def Position.ofRest (text rest : List Char) : Position :=
  let before := text.take (text.length - rest.length)
  match rest with
  | c :: _ =>
    let p := Position.behind before
    if c.utf8Size = 1 then p
    else ⟨p.line, Text.byteSize (before.reverse.takeWhile (· ≠ '\n'))⟩
  | [] =>
    match text with
    | [] => ⟨0, 0⟩
    | _ =>
      let p := Position.behind text.dropLast
      ⟨p.line, p.column + 1⟩

namespace Fault

/-- What is wrong, in up to three lines. -/
def reason (f : Fault) : String :=
  String.intercalate "\n"
    ((f.inside.map fun name => "invalid " ++ name).toList ++
      (if f.expected = [] then [] else ["expected " ++ String.intercalate ", " f.expected]) ++
      f.cause.toList)

/-- The wording of a fault in a text: the position, the line with a mark below the place, and the
reason. -/
def message (text : List Char) (f : Fault) : String :=
  let p := Position.ofRest text f.rest
  let number := toString (p.line + 1)
  let content := ((String.ofList text).splitOn "\n").getD p.line ""
  let gutter := String.ofList (List.replicate (number.length + 1) ' ')
  let wide := match f.rest with
    | c :: _ => c.utf8Size
    | [] => 0
  let marks := max 1 (min wide (content.utf8ByteSize - p.column))
  String.intercalate "\n" [
    "TOML parse error at line " ++ number ++ ", column " ++ toString (p.column + 1),
    gutter ++ "|",
    number ++ " | " ++ content,
    gutter ++ "|" ++ String.ofList (List.replicate (p.column + 1) ' ' ++
      List.replicate marks '^'),
    f.reason,
    ""]

end Fault

end DataGovernance.Toml
