import DataGovernance.Binary64
import DataGovernance.Count
import DataGovernance.Settings.Datum
import DataGovernance.Text.Blank
import DataGovernance.Text.Bytes

/-!
# Settings from the environment

A variable whose name begins with `STEWARD_`, in any case, is a setting. The rest of the name is its
path in lower case, where two underscores or a point go one table down; a path with an empty part is
no setting.

The value is read as far as it makes sense as a whole: `true` and `false`, a table between braces, a
list between brackets, a text between double quotes, a character between single quotes, a number;
anything else is a text as it stands. A text with an escape loses what stands before the first one,
except for as many bytes as that has characters.

Key definitions: `Environment`, `settingPath?`, `Datum.ofVariable`, `Datum.ofEnvironment`.
-/

namespace DataGovernance

/-- Variables and their values. -/
abbrev Environment := List (String × String)

namespace Environment

/-- The beginning of the names of settings. -/
def settingPrefix : String := "STEWARD_"

/-- A name without the prefix, which may be written in any case. -/
def dropPrefix? : List Char → List Char → Option (List Char)
  | [], name => some name
  | _ :: _, [] => none
  | p :: ps, c :: cs => if p.toLower = c.toLower then dropPrefix? ps cs else none

/-- Puts a point in the place of two underscores. -/
def points : List Char → List Char
  | '_' :: '_' :: rest => '.' :: points rest
  | c :: rest => c :: points rest
  | [] => []

/-- The parts of a text between points. -/
def parts : List Char → List (List Char)
  | [] => [[]]
  | c :: rest =>
    if c = '.' then [] :: parts rest
    else match parts rest with
      | part :: others => (c :: part) :: others
      | [] => [[c]]

/-- The path of the setting that a variable's name stands for. -/
def settingPath? (name : String) : Option (List String) := do
  let rest ← dropPrefix? settingPrefix.toList (Text.trim name.toList)
  let path := parts (Text.trim (points rest))
  if path.contains [] then none
  else some (path.map fun part => String.ofList (part.map Char.toLower))

end Environment

namespace Datum

/-! ### The value of a variable -/

/-- A blank between the parts of a value. -/
def isGap (c : Char) : Bool :=
  c == ' ' || c == '\t' || c == '\n' || c == '\x0C' || c == '\r'

/-- A character of a name in a table that is not quoted. -/
def isNameChar (c : Char) : Bool := c.isAlphanum || c == '_' || c == '-'

/-- A character that ends a value without quotes. -/
def isSeparator (c : Char) : Bool :=
  c == ',' || c == '\x7b' || c == '\x7d' || c == '[' || c == ']'

/-- The digits of a whole number in decimal, without a sign. -/
def natural? (cs : List Char) : Option Nat :=
  if cs ≠ [] ∧ cs.all Char.isDigit then some (Text.value cs) else none

/-- The sign at the front of a number, and what follows it. -/
def splitSign : List Char → Bool × List Char
  | '-' :: rest => (true, rest)
  | '+' :: rest => (false, rest)
  | cs => (false, cs)

/-- The whole number that fits 64 bits and is written with or without a sign. -/
def wholeNumber? (cs : List Char) : Option Datum := do
  let (negative, ds) := splitSign cs
  let n ← natural? ds
  if negative then if n ≤ signedSize then some (signed (-n)) else none
  else if n < wordSize then some (unsigned n) else none

/-- The exponent at the end of a number; there may be none. -/
def exponent? : List Char → Option Int
  | [] => some 0
  | c :: rest =>
    if c = 'e' ∨ c = 'E' then
      let (negative, ds) := splitSign rest
      (natural? ds).map fun n => if negative then -n else n
    else none

/-- A number with a point, shown without an exponent. -/
def pointNumber? (cs : List Char) : Option Datum := do
  let (negative, cs) := splitSign cs
  let (whole, cs) := cs.span Char.isDigit
  match cs with
  | '.' :: cs => do
    let (part, cs) := cs.span Char.isDigit
    let n ← natural? (whole ++ part)
    let e ← exponent? cs
    let shown := match Binary64.ofDecimal? n (e - part.length) with
      | some x => x.plainText
      | none => ['i', 'n', 'f']
    some (fraction (String.ofList (if negative then '-' :: shown else shown)))
  | _ => none

/-- A value without quotes. -/
def plainValue (cs : List Char) : Datum :=
  let cs := Text.trim cs
  match pointNumber? cs with
  | some d => d
  | none => (wholeNumber? cs).getD (text (String.ofList cs))

/-- The inside of a quoted text, up to the closing quote, and what follows it. Control characters
other than the tab have to be escaped. -/
def quoted? : List Char → Option (List Char × List Char)
  | [] => none
  | '"' :: rest => some ([], rest)
  | '\\' :: 'u' :: a :: b :: c :: d :: rest => do
    let char ← Text.charOfHex? [a, b, c, d]
    let (cs, rest) ← quoted? rest
    some (char :: cs, rest)
  | '\\' :: 'U' :: a :: b :: c :: d :: e :: f :: g :: h :: rest => do
    let char ← Text.charOfHex? [a, b, c, d, e, f, g, h]
    let (cs, rest) ← quoted? rest
    some (char :: cs, rest)
  | '\\' :: c :: rest => do
    let char ← match c with
      | '"' => some '"'
      | '\\' => some '\\'
      | 'b' => some '\x08'
      | 'f' => some '\x0C'
      | 'n' => some '\n'
      | 'r' => some '\r'
      | 't' => some '\t'
      | _ => none
    let (cs, rest) ← quoted? rest
    some (char :: cs, rest)
  | c :: rest =>
    if (c < ' ' ∧ c ≠ '\t') ∨ c = '\x7F' then none
    else do
      let (cs, rest) ← quoted? rest
      some (c :: cs, rest)

/-- The text that the inside of a quoted text stands for, and what follows the closing quote. Of the
characters before the first escape only as many bytes are kept as there are characters. -/
def quotedText? (cs : List Char) : Option (List Char × List Char) := do
  let (inner, rest) ← quoted? cs
  let (before, further) := cs.span fun c => c != '"' && c != '\\'
  if further.head? = some '\\' then
    some (Text.takeBytes before.length before ++ inner.drop before.length, rest)
  else some (inner, rest)

/-- Reads items with commas between them up to a closing bracket; one more comma may stand before
it. -/
def items? {α : Type} (close : Char) (item : List Char → Option (α × List Char)) :
    Nat → List Char → Option (List α × List Char)
  | 0, _ => none
  | steps + 1, cs =>
    if cs.head? = some close then some ([], cs.tail)
    else do
      let (a, cs) ← item cs
      match cs with
      | [] => none
      | c :: rest =>
        if c = ',' then do
          let (as, rest) ← items? close item steps rest
          some (a :: as, rest)
        else if c = close then some ([a], rest)
        else none

/-- The name at the front of an entry of a table. -/
def entryName? (cs : List Char) : Option (String × List Char) :=
  match cs with
  | '"' :: rest => do
    let (name, rest) ← quotedText? rest
    some (String.ofList name, rest)
  | _ =>
    match cs.span isNameChar with
    | ([], _) => none
    | (name, rest) => some (String.ofList name, rest)

/-- Reads an entry of a table. -/
def pair? (value : List Char → Option (Datum × List Char)) (cs : List Char) :
    Option ((String × Datum) × List Char) := do
  let (name, cs) ← entryName? (cs.dropWhile isGap)
  match cs.dropWhile isGap with
  | '=' :: cs => do
    let (d, cs) ← value cs
    some ((name, d), cs)
  | _ => none

/-- Drops the blanks behind a value. -/
def closing (d : Datum) (cs : List Char) : Option (Datum × List Char) :=
  some (d, cs.dropWhile isGap)

/-- Reads a value, in at most the given number of nested lists and tables. -/
def value? : Nat → List Char → Option (Datum × List Char)
  | 0, _ => none
  | depth + 1, cs =>
    match cs.dropWhile isGap with
    | 't' :: 'r' :: 'u' :: 'e' :: rest => closing (flag true) rest
    | 'f' :: 'a' :: 'l' :: 's' :: 'e' :: rest => closing (flag false) rest
    | '\x7b' :: rest => do
      let (entries, rest) ← items? '\x7d' (pair? (value? depth)) (rest.length + 1) rest
      closing (table (entries.foldl (fun es (name, d) => put name d es) [])) rest
    | '[' :: rest => do
      let (items, rest) ← items? ']' (value? depth) (rest.length + 1) rest
      closing (list items) rest
    | '"' :: rest => do
      let (cs, rest) ← quotedText? rest
      closing (text (String.ofList cs)) rest
    | '\'' :: c :: '\'' :: rest => closing (text (String.ofList [c])) rest
    | '\'' :: _ => none
    | cs =>
      let (word, rest) := cs.span fun c => !isSeparator c
      closing (plainValue word) rest

/-- The value of a variable. -/
def ofVariable (s : String) : Datum :=
  match value? (s.length + 1) s.toList with
  | some (d, []) => d
  | _ => text s

/-- The settings of an environment. Of two variables for the same setting the later one stands. -/
def ofEnvironment (env : Environment) : Datum :=
  env.foldl (fun d (name, s) =>
    match Environment.settingPath? name with
    | some path => d.overlay (nest path (ofVariable s))
    | none => d) (table [])

end Datum

end DataGovernance
