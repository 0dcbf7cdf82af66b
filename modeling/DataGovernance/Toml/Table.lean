import DataGovernance.Settings.Datum

/-!
# Tables of a TOML text

Tables come about in three ways: a header opens them, a dotted key goes through them, or the header
of a table below implies them. A header may open an implied table, once; dotted keys may be added
only to a table that dotted keys have made.

Key definitions: `Form`, `Node`, `Clash`, `define`, `openTable`, `openItem`, `Node.toDatum`.
-/

namespace DataGovernance.Toml

/-- How a table came about. -/
inductive Form where
  | implied
  | dotted
  | headed
  deriving DecidableEq, Repr

/-- What a name can stand for: a value of a kind, a table, or a list of tables, of which the last is
kept apart. -/
inductive Node where
  | value (d : Datum) (kind : String)
  | table (form : Form) (entries : List (String × Node))
  | tables (earlier : List (List (String × Node))) (last : List (String × Node))
  deriving Inhabited

/-- A character that a key can hold without quotes. -/
def isKeyChar (c : Char) : Bool := c.isAlphanum || c == '_' || c == '-'

/-- The entries of a table. -/
abbrev Entries := List (String × Node)

/-- A name that cannot be used as it is. -/
inductive Clash where
  /-- A key that is there already; the table it was found in may be told. -/
  | repeatedKey (key : String) (table : Option (List String))
  /-- A header for what is there already. -/
  | repeatedTable (key : String) (table : List String)
  /-- A path through something that is no table. -/
  | notTable (path : List String) (kind : String)
  deriving Repr

namespace Clash

/-- The wording for the table that a key was found in. -/
def place : List String → String
  | [] => " in document root"
  | path => " in table `" ++ String.intercalate "." path ++ "`"

/-- A control character other than the tab. -/
def isControl (c : Char) : Bool := (c < ' ' && c != '\t') || c == '\x7F'

/-- A character between double quotes, with a backslash where it could not stand as it is. -/
def escaped (c : Char) : List Char :=
  if c = '"' then ['\\', '"']
  else if c = '\\' then ['\\', '\\']
  else if c = '\x08' then ['\\', 'b']
  else if c = '\t' then ['\\', 't']
  else if c = '\n' then ['\\', 'n']
  else if c = '\x0C' then ['\\', 'f']
  else if c = '\r' then ['\\', 'r']
  else if isControl c then
    let ds := (Nat.toDigits 16 c.toNat).map Char.toUpper
    '\\' :: 'u' :: List.replicate (4 - ds.length) '0' ++ ds
  else [c]

/-- A key as it would be written: bare if it can be, between single quotes if that saves escaping a
double quote or a backslash, and else between double quotes. -/
def written (key : String) : String :=
  let cs := key.toList
  if cs ≠ [] ∧ cs.all isKeyChar then key
  else if ('"' ∈ cs ∨ '\\' ∈ cs) ∧ '\'' ∉ cs ∧ ¬cs.any isControl then "'" ++ key ++ "'"
  else "\"" ++ String.ofList (cs.flatMap escaped) ++ "\""

/-- The wording of a clash. -/
def message : Clash → String
  | repeatedKey key none => "duplicate key `" ++ key ++ "`"
  | repeatedKey key (some table) => "duplicate key `" ++ key ++ "`" ++ place table
  | repeatedTable key table => "duplicate key `" ++ written key ++ "`" ++ place table
  | notTable path kind =>
    "dotted key `" ++ String.intercalate "." path ++
      "` attempted to extend non-table type (" ++ kind ++ ")"

end Clash

/-- Puts a node under a name, in the place of an earlier one. -/
def putNode (name : String) (n : Node) : Entries → Entries
  | [] => [(name, n)]
  | (m, e) :: rest => if m = name then (name, n) :: rest else (m, e) :: putNode name n rest

/-! ### Keys and values -/

/-- The kind of a table that is written as a value. -/
def inlineKind : String := "inline table"

/-- Gives a key its value. The key is `path` and then `key`; `done` is the part of the path that has
been walked, and `extends` whether keys may be added to the table reached. When `within` is no
table's path, the entries are those of a table that is written as a value. -/
def define (within : Option (List String)) (key : String) (v : Node) (done : List String)
    (isOpen : Bool) : List String → Entries → Except Clash Entries
  | [], es =>
    if isOpen then
      match es.lookup key with
      | some _ => .error (.repeatedKey key within)
      | none => .ok (es ++ [(key, v)])
    else .error (.repeatedKey key none)
  | name :: path, es =>
    match es.lookup name with
    | none => do
      let inner ← define within key v (done ++ [name]) true path []
      .ok (es ++ [(name, .table .dotted inner)])
    | some (.table .headed _) => .error (.repeatedKey name none)
    | some (.table form inner) => do
      let inner ← define within key v (done ++ [name]) (form == .dotted) path inner
      .ok (putNode name (.table form inner) es)
    | some (.tables earlier last) => do
      let last ← define within key v (done ++ [name]) false path last
      .ok (putNode name (.tables earlier last) es)
    | some (.value _ kind) =>
      if within = none ∧ kind = inlineKind then .error (.repeatedKey name none)
      else .error (.notTable (done ++ [name]) kind)

/-! ### Headers -/

/-- Changes the entries of the table at a header's path. Tables on the way come about by
implication; of a list of tables the last one is meant. -/
def atHeader (change : Entries → Except Clash Entries) (done : List String) :
    List String → Entries → Except Clash Entries
  | [], es => change es
  | name :: path, es =>
    match es.lookup name with
    | none => do
      let inner ← atHeader change (done ++ [name]) path []
      .ok (es ++ [(name, .table .implied inner)])
    | some (.table form inner) => do
      let inner ← atHeader change (done ++ [name]) path inner
      .ok (putNode name (.table form inner) es)
    | some (.tables earlier last) => do
      let last ← atHeader change (done ++ [name]) path last
      .ok (putNode name (.tables earlier last) es)
    | some (.value _ kind) => .error (.notTable (done ++ [name]) kind)

/-- Opens the table that a header names. -/
def openTable (path : List String) (key : String) (es : Entries) : Except Clash Entries :=
  atHeader (fun es =>
    match es.lookup key with
    | none => .ok (es ++ [(key, .table .headed [])])
    | some (.table .implied inner) => .ok (putNode key (.table .headed inner) es)
    | some _ => .error (.repeatedTable key path)) [] path es

/-- Opens a further table of the list that a header names. -/
def openItem (path : List String) (key : String) (es : Entries) : Except Clash Entries :=
  atHeader (fun es =>
    match es.lookup key with
    | none => .ok (es ++ [(key, .tables [] [])])
    | some (.tables earlier last) => .ok (putNode key (.tables (last :: earlier) []) es)
    | some _ => .error (.repeatedTable key path)) [] path es

/-! ### What the tables hold -/

mutual

/-- What a node holds. -/
def Node.toDatum : Node → Datum
  | .value d _ => d
  | .table _ entries => .table (entriesToDatum entries)
  | .tables earlier last =>
    .list ((tablesToDatum earlier).reverse ++ [.table (entriesToDatum last)])

/-- What entries hold, by name. -/
def entriesToDatum : Entries → List (String × Datum)
  | [] => []
  | (name, n) :: rest => Datum.put name n.toDatum (entriesToDatum rest)

/-- What tables hold. -/
def tablesToDatum : List Entries → List Datum
  | [] => []
  | es :: rest => .table (entriesToDatum es) :: tablesToDatum rest

end

end DataGovernance.Toml
