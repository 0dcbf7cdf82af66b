import DataGovernance.Json.Value
import DataGovernance.Text.Quoted
import DataGovernance.Time.Rfc3339
import DataGovernance.Vocabulary

/-!
# What can be wrong with a document

A document that is to be a record fails either because its text is not JSON where the reader came
to it, or because a value is not what the record has there.

Key definitions: `Found`, `DataError`, `ReadError`, and the wording of each.
-/

namespace DataGovernance

open Json

namespace Record

/-- What was found in the place of something else. -/
inductive Found where
  | null
  | bool (b : Bool)
  | num (n : Number)
  | str (s : String)
  | list
  | object
  deriving DecidableEq, Repr

/-- The wording of what was found. -/
def Found.message : Found → String
  | null => "null"
  | bool true => "boolean `true`"
  | bool false => "boolean `false`"
  | num (.int i) => "integer `" ++ String.ofList (Text.integer i) ++ "`"
  | num (.real d) => "floating point `" ++ String.ofList d.text ++ "`"
  | str s => "string " ++ Text.quote s
  | list => "sequence"
  | object => "map"

/-- The ways in which JSON can fail to be a record. -/
inductive DataError where
  | invalidType (found : Found) (expected : String)
  | invalidValue (found : Found) (expected : String)
  | invalidLength (length : Nat) (expected : String)
  | unknownWord (cause : Vocabulary.UnknownWord)
  | missingField (name : String)
  | duplicateField (name : String)
  | timestamp (cause : Time.ReadError)
  deriving DecidableEq, Repr

/-- The wording of a data error. -/
def DataError.message : DataError → String
  | invalidType found expected => "invalid type: " ++ found.message ++ ", expected " ++ expected
  | invalidValue found expected => "invalid value: " ++ found.message ++ ", expected " ++ expected
  | invalidLength n expected =>
    "invalid length " ++ String.ofList (Text.digits n) ++ ", expected " ++ expected
  | unknownWord cause => cause.message
  | missingField name => "missing field `" ++ name ++ "`"
  | duplicateField name => "duplicate field `" ++ name ++ "`"
  | timestamp cause => cause.message

/-- Why a record could not be read. -/
inductive ReadError where
  | json (cause : SyntaxError)
  | data (cause : DataError)
  deriving DecidableEq, Repr

/-- The wording of a reading error. -/
def ReadError.message : ReadError → String
  | json cause => cause.message
  | data cause => cause.message

/-- The error of a reader that wants something else. -/
def mismatch (expected : String) : Document → ReadError
  | .null => .data (.invalidType .null expected)
  | .bool b => .data (.invalidType (.bool b) expected)
  | .num n => .data (.invalidType (.num n) expected)
  | .str s => .data (.invalidType (.str s) expected)
  | .list _ => .data (.invalidType .list expected)
  | .object _ => .data (.invalidType .object expected)
  | .fault f => .json f.read

/-- A syntax error as the reason why a record could not be read. -/
def ofSyntax {α : Type} : Except SyntaxError α → Except ReadError α
  | .ok a => .ok a
  | .error e => .error (.json e)

end Record

end DataGovernance
