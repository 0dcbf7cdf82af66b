import DataGovernance.Text.Digits
import DataGovernance.Toml.Reads

/-!
# Texts in TOML

A text stands between double quotes, with escapes, or between single quotes, as it is. Three quotes
in place of one let it go over several lines, and a line end right behind them does not count.

Key definitions: `basicText`, `literalText`, `text`.
-/

namespace DataGovernance.Toml

open Reads

/-- A character that stands for itself between double quotes. -/
def isPlain (c : Char) : Bool := isCommentChar c && c != '"' && c != '\\'

/-- A character that may stand between single quotes. -/
def isLiteral (c : Char) : Bool := isCommentChar c && c != '\''

/-- The wording for a number outside its range. -/
def outOfRange : String := "value is out of range"

/-- A character by its code point in `n` hexadecimal digits. -/
def codePoint (n : Nat) : Reads Char :=
  settle <| inside ("unicode " ++ toString n ++ "-digit hex code") <|
    judged (fun ds =>
      match Text.charOfHex? ds with
      | some c => .ok c
      | none => .error outOfRange) (takeExactly (fun c => (Text.hexDigit? c).isSome) n)

/-- Faults at a character that is no escape. -/
def noEscape : Reads Char :=
  settle <| inside "escape sequence" <|
    expecting ["`b`", "`f`", "`n`", "`r`", "`t`", "`u`", "`U`", "`\\`", "`\"`"] fail

/-- An escape, with its backslash. -/
def escape : Reads Char := do
  char '\\'
  match ← peek? with
  | none => fail
  | some c => do
    -- a character of several bytes is no escape as a whole
    if 1 < c.utf8Size then noEscape
    else do
      char c
      match c with
      | 'b' => return '\x08'
      | 't' => return '\t'
      | 'n' => return '\n'
      | 'f' => return '\x0C'
      | 'r' => return '\r'
      | '"' => return '"'
      | '\\' => return '\\'
      | 'u' => codePoint 4
      | 'U' => codePoint 8
      | _ => noEscape

/-- A text between double quotes. -/
def basicText : Reads (List Char) := do
  char '"'
  let cs ← many (orElse (oneOf isPlain) escape)
  settle (inside "basic string" (char '"'))
  return cs

/-- A text between single quotes. -/
def literalText : Reads (List Char) := do
  char '\''
  inside "literal string" do
    let cs ← takeWhile isLiteral
    settle (char '\'')
    return cs

/-- A line end after a backslash, with all spaces and line ends that follow. -/
def joinedLines : Reads Unit := do
  char '\\'
  spaces
  newline
  let _ ← many (orElse newline (do let _ ← takeSome isSpace))

/-- A piece of a text over several lines between double quotes. -/
def basicPiece : Reads (List Char) :=
  orElse (takeSome isPlain) <|
    orElse ((fun _ => []) <$> many1 joinedLines) <|
      orElse ((fun c => [c]) <$> escape) ((fun _ => ['\n']) <$> newline)
where
  /-- Reads as often in a row as possible, at least once. -/
  many1 (r : Reads Unit) : Reads Unit := do
    r
    let _ ← many r

/-- A piece of a text over several lines between single quotes. -/
def literalPiece : Reads (List Char) :=
  orElse (takeSome isLiteral) ((fun _ => ['\n']) <$> newline)

/-- Looks whether a reading succeeds here, and takes nothing. -/
def ahead {α : Type} (r : Reads α) : Reads Unit := fun cs =>
  match r cs with
  | .ok _ => .ok ((), cs)
  | .error e => .error (if e.settled then e else { e with rest := cs })

/-- One or two quotes, if what is given follows them. -/
def quotesBefore {α : Type} (quote : Char) (next : Reads α) : Reads (List Char) :=
  orElse (do char quote; char quote; ahead next; return [quote, quote])
    (do char quote; ahead next; return [quote])

/-- The inside of a text over several lines, up to the three quotes that close it. One or two quotes
may stand in it where `next` follows them, and at its end. -/
def inLines {α : Type} (quote : Char) (piece : Reads (List Char)) (next : Reads α) :
    Reads (List Char) := do
  let close : Reads Unit := literal (String.ofList [quote, quote, quote])
  let pieces ← many (orElse piece (quotesBefore quote next))
  let quotes ← optional (quotesBefore quote close)
  settle close
  return pieces.flatten ++ quotes.getD []

/-- A text. -/
def text : Reads (List Char) := do
  if ← sees "\"\"\"" then
    inside "multiline basic string" do
      literal "\"\"\""
      let _ ← optional newline
      inLines '"' basicPiece (oneOf (· != '"'))
  else if ← sees "'''" then
    inside "multiline literal string" do
      literal "'''"
      let _ ← optional newline
      inLines '\'' literalPiece literalPiece
  else if ← sees "\"" then basicText
  else literalText

end DataGovernance.Toml
