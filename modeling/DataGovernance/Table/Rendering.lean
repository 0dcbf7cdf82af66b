import DataGovernance.Json.Value
import DataGovernance.Table.Basic
import DataGovernance.Vocabulary

/-!
# Answers as text

An answer is printed as indented JSON, as a table, or as JSON on one line. As a table, a list of
objects has a row for each object and a column for each key, another list has a single column, and
an object has a row for each path of keys that leads to something else than an object.

Key definitions: `cell`, `flatten`, `Table.ofValue?`, `OutputFormat`, `OutputFormat.render`.
-/

namespace DataGovernance

open Json

namespace Json.Value

/-! ### Order of keys -/

/-- Puts members into the order of their keys. -/
def sortMembers (members : List (String × Value)) : List (String × Value) :=
  members.mergeSort fun a b => decide (a.1 ≤ b.1)

mutual

/-- The value with the members of every object in the order of their keys. -/
def sortKeys : Value → Value
  | list items => list (sortKeysItems items)
  | object members => object (sortMembers (sortKeysMembers members))
  | v => v

/-- Sorts the keys in every item. -/
def sortKeysItems : List Value → List Value
  | [] => []
  | v :: rest => v.sortKeys :: sortKeysItems rest

/-- Sorts the keys in the value of every member. -/
def sortKeysMembers : List (String × Value) → List (String × Value)
  | [] => []
  | (k, v) :: rest => (k, v.sortKeys) :: sortKeysMembers rest

end

/-! ### Parts of values -/

/-- The text that a value is. -/
def text? : Value → Option String
  | str s => some s
  | _ => none

/-- The members of an object. -/
def members? : Value → Option (List (String × Value))
  | object members => some members
  | _ => none

end Json.Value

namespace Table

/-- A value in a cell of a table. -/
def cell : Value → String
  | .null => noCell
  | .bool true => "true"
  | .bool false => "false"
  | .int i => String.ofList (Text.integer i)
  | .real d => String.ofList d.text
  | .str s => s
  | .list items =>
    match items.mapM Value.text? with
    | some texts => String.intercalate ", " texts
    | none => (Value.list items).compact
  | .object members => (Value.object members).compact

/-- A path of keys, one key longer. -/
def extendPath (path key : String) : String := if path = "" then key else path ++ "." ++ key

/-- The paths from an object's members to values that are no objects, and these values' cells. -/
def flatten (path : String) : List (String × Value) → List (String × String)
  | [] => []
  | (key, .object members) :: rest =>
    flatten (extendPath path key) members ++ flatten path rest
  | (key, v) :: rest => (extendPath path key, cell v) :: flatten path rest

/-- The keys that occur in records, in the order of their first occurrence. -/
def columnKeys (records : List (List (String × Value))) : List String :=
  (records.flatMap fun members => members.map Prod.fst).eraseDups

/-- The cell of a record in the column of a key. -/
def recordCell (members : List (String × Value)) (key : String) : String :=
  match members.lookup key with
  | some v => cell v
  | none => noCell

/-- The table of a list of records. -/
def ofRecords (records : List (List (String × Value))) : Table where
  headers := columnKeys records
  rows := records.map fun members => (columnKeys records).map (recordCell members)

/-- The table of a value whose keys are in order; an empty list has none. -/
def ofValue? : Value → Option Table
  | .list [] => none
  | .list items =>
    match items.mapM Value.members? with
    | some records => some (ofRecords records)
    | none => some ⟨["value"], items.map fun v => [cell v]⟩
  | .object members =>
    some ⟨["field", "value"], (flatten "" members).map fun (path, text) => [path, text]⟩
  | v => some ⟨["value"], [[cell v]]⟩

end Table

/-- A form in which answers are printed. -/
inductive OutputFormat where
  | json
  | table
  | raw
  deriving DecidableEq, Repr

instance : Vocabulary OutputFormat where
  members := [.json, .table, .raw]
  word
    | .json => "json"
    | .table => "table"
    | .raw => "raw"
  mem_members a := by cases a <;> decide
  nodup_words := by decide

/-- How tables are to be printed. -/
structure TableStyle where
  limit : Option Nat := none
  coloured : Bool := false
  deriving DecidableEq, Repr

/-- A value in a form for printing. -/
def OutputFormat.render (style : TableStyle) (v : Value) : OutputFormat → String
  | json => v.indented
  | raw => v.compact
  | table =>
    match Table.ofValue? v.sortKeys with
    | some t => t.render style.limit style.coloured
    | none => "(no rows)"

end DataGovernance
