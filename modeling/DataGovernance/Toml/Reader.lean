import DataGovernance.Toml.Number
import DataGovernance.Toml.Table

/-!
# Reading a TOML text

A text is a run of lines: headers, keys with values, comments and blanks. A key belongs to the table
of the last header above it.

Key definitions: `keyPath`, `value`, `Sheet`, `document`, `read`.
-/

namespace DataGovernance.Toml

open Reads

/-! ### Keys -/

/-- A part of a key. -/
def keyPart : Reads String := do
  let cs ← match ← peek? with
    | some '"' => basicText
    | some '\'' => literalText
    | _ => takeSome isKeyChar
  return String.ofList cs

/-- The number of parts of a key, and of nested lists and tables, that is too great. -/
def depthLimit : Nat := 80

/-- The wording for too deep a nesting. -/
def tooDeep : String := "recursion limit exceeded"

/-- A key: the parts before the last one, and the last one. -/
def keyPath : Reads (List String × String) :=
  judged (fun parts =>
      if parts.length < depthLimit then .ok (parts.dropLast, parts.getLastD "")
      else .error tooDeep) <|
    inside "key" <|
      separated (char '.') (do
        spaces
        let part ← keyPart
        spaces
        return part)

/-- The sign between a key and its value. -/
def equals : Reads Unit := expecting ["`.`", "`=`"] (char '=')

/-! ### Values -/

/-- Marks a place where a text should stand. -/
def likeText (r : Reads Node) : Reads Node :=
  inside "string" (expecting ["`\"`", "`'`"] r)

/-- A value of a kind. -/
def ofKind (kind : String) (r : Reads Datum) : Reads Node := do
  let d ← r
  return .value d kind

/-- A word that stands for a value. -/
def word (s : String) (n : Node) : Reads Node := do
  literal s
  return n

/-- A list, in which the values are read by `item`. -/
def list (item : Reads Node) : Reads Node := do
  char '['
  settle do
    let items ← optional (separated (char ',') (do
      gaps
      let n ← item
      gaps
      return n))
    if items.isSome then
      let _ ← optional (char ',')
    gaps
    inside "array" (expecting ["`]`"] (char ']'))
    return .value (.list ((items.getD []).map Node.toDatum)) "array"

/-- A table that is written as a value, in which the values are read by `item`. -/
def inlineTable (item : Reads Node) : Reads Node := do
  char '\x7b'
  settle do
    let entries ← judged build (do
      let entries ← optional (separated (char ',') (do
        let key ← keyPath
        settle do
          equals
          spaces
          let n ← item
          spaces
          return (key, n)))
      spaces
      return entries.getD [])
    inside "inline table" (expecting ["`\x7d`"] (char '\x7d'))
    return .value (.table (entriesToDatum entries)) inlineKind
where
  /-- The entries of the table. -/
  build (entries : List ((List String × String) × Node)) : Except String Entries :=
    match entries.foldlM (fun es ((path, key), n) => define none key n [] true path es) [] with
    | .ok es => .ok es
    | .error clash => .error clash.message

/-- Faults at a list or table that is too deep. -/
def tooNested : Reads Node := settle (judged (fun _ => .error tooDeep) (pure ()))

/-- A value, where lists and tables are read as given. -/
def valueWith (listRead tableRead : Reads Node) : Reads Node := do
  match ← peek? with
  | none => fail
  | some c =>
    if c == '"' || c == '\'' then
      ofKind "string" ((fun cs => .text (String.ofList cs)) <$> text)
    else if c == '[' then listRead
    else if c == '\x7b' then tableRead
    else if c == '+' || c == '-' || c.isDigit then
      orElse (ofKind "datetime" moment) <|
        orElse (ofKind "float" fraction) (ofKind "integer" integer)
    else if c == '_' then expecting ["leading digit"] (ofKind "integer" integer)
    else if c == '.' then expecting ["leading digit"] (ofKind "float" fraction)
    else likeText <| match c with
      | 't' => settle (word "true" (.value (.flag true) "boolean"))
      | 'f' => settle (word "false" (.value (.flag false) "boolean"))
      | 'i' => word "inf" (.value (.fraction "inf") "float")
      | 'n' => word "nan" (.value (.fraction "NaN") "float")
      | _ => fail

/-- A value, with at most the given number of lists and tables around each other. -/
def value : Nat → Reads Node
  | 0 => valueWith tooNested tooNested
  | depth + 1 => valueWith (list (value depth)) (inlineTable (value depth))

/-! ### Lines -/

/-- The tables so far, and the path of the table that keys belong to. -/
structure Sheet where
  entries : Entries := []
  header : List String := []

/-- Makes a clash a fault. -/
def clashing {α : Type} : Except Clash α → Except String α
  | .ok a => .ok a
  | .error clash => .error clash.message

/-- Adds a key with its value to a sheet. -/
def Sheet.add (s : Sheet) (path : List String) (key : String) (n : Node) : Except String Sheet :=
  clashing do
    let entries ← atHeader (define (some s.header) key n [] true path) [] s.header s.entries
    return { s with entries }

/-- Adds a header to a sheet. -/
def Sheet.head (s : Sheet) (path : List String) (key : String) (isItem : Bool) :
    Except String Sheet :=
  clashing do
    let entries ← if isItem then openItem path key s.entries else openTable path key s.entries
    return { entries, header := path ++ [key] }

/-- A key with its value. -/
def entry (s : Sheet) : Reads Sheet :=
  judged (fun ((path, key), n) => s.add path key n) (do
    let key ← keyPath
    settle do
      equals
      spaces
      let n ← value (depthLimit - 1)
      lineRest
      return (key, n))

/-- A header. -/
def header (s : Sheet) : Reads Sheet :=
  inside "table header" do
    let isItem ← sees "[["
    let (start, stop) := if isItem then ("[[", "]]") else ("[", "]")
    judged (fun (path, key) => s.head path key isItem) (do
      -- a bracket that ends the text begins no header
      ahead (takeExactly (fun _ => true) 2)
      literal start
      settle do
        let key ← keyPath
        expecting ["`.`", "`" ++ stop ++ "`"] (literal stop)
        lineRest
        return key)

/-- One line, or a part of it, behind its spaces. -/
def line (s : Sheet) : Reads Sheet := do
  match ← peek? with
  | none => fail
  | some '#' => settle do
    comment
    lineEnd
    return s
  | some '[' => settle (header s)
  | some '\n' => newlineAfter s
  | some '\r' => newlineAfter s
  | some _ => settle (entry s)
where
  /-- A line end, which leaves the sheet as it is. -/
  newlineAfter (s : Sheet) : Reads Sheet := do
    newline
    return s

/-- At most `n` lines. -/
def lines : Nat → Sheet → Reads Sheet
  | 0, s => pure s
  | n + 1, s => do
    match ← optional (line s) with
    | none => return s
    | some s => do
      spaces
      lines n s

/-- A whole text. -/
def document : Reads Sheet := fun cs =>
  (do
    let _ ← optional (char '\uFEFF')
    spaces
    let s ← lines (cs.length + 1) {}
    endOfText
    return s) cs

/-- Reads a TOML text as a table, or gives the wording of what is wrong with it. -/
def read (s : String) : Except String Datum :=
  match document s.toList with
  | .ok (sheet, _) => .ok (.table (entriesToDatum sheet.entries))
  | .error fault => .error (fault.message s.toList)

end DataGovernance.Toml
