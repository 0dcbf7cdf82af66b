import DataGovernance.Record.Codec

/-!
# Records and their fields

A record is an object with a member for each of its fields. It is written with all its fields in
order. It is read from members in any order, where unknown ones are passed over, no field may occur
twice, and a field may be absent if the record has a default for it. A record may also be a list of
its fields in order, of which the last ones may be absent if they have defaults.

A field names the codec of its values and how they are taken out of a record and put into one. So
one list of fields serves both to write and to read.

Key definitions: `Field`, `Shape`, `Shape.encode`, `Shape.decode`, `Shape.codec`.
-/

namespace DataGovernance.Record

open Json

/-- A field of records of type `ρ`. -/
structure Field (ρ : Type) where
  /-- The type of the field's values. -/
  {α : Type}
  /-- The field's key. -/
  name : String
  /-- Whether the record has no default for the field. -/
  needed : Bool
  codec : Codec α
  get : ρ → α
  set : α → ρ → ρ

/-- A field that has to be present. -/
def Field.needs {ρ α : Type} (name : String) (codec : Codec α) (get : ρ → α) (set : α → ρ → ρ) :
    Field ρ :=
  ⟨name, true, codec, get, set⟩

/-- A field that may be absent. -/
def Field.allows {ρ α : Type} (name : String) (codec : Codec α) (get : ρ → α) (set : α → ρ → ρ) :
    Field ρ :=
  ⟨name, false, codec, get, set⟩

/-- How the records of a type are written and read. -/
structure Shape (ρ : Type) where
  /-- What an error message calls the record. -/
  title : String
  /-- The record in which every field has its default. -/
  blank : ρ
  fields : List (Field ρ)

/-- A number of elements, as a message puts it. -/
def elements (n : Nat) : String :=
  String.ofList (Text.digits n) ++ if n = 1 then " element" else " elements"

/-- What follows the last field in the list of a record that is read as its text goes by. -/
def checkTail : List Document → Except ReadError Unit
  | [] => .ok ()
  | .fault (.item .eofList) :: _ => .error (.json .eofList)
  | .fault (.item .trailingComma) :: _ => .error (.json .trailingComma)
  | _ => .error (.json .trailingCharacters)

namespace Shape

variable {ρ : Type}

/-- The members of a record, in order. -/
def members (shape : Shape ρ) (r : ρ) : List (String × Value) :=
  shape.fields.map fun f => (f.name, f.codec.encode (f.get r))

/-- A record as an object. -/
def encode (shape : Shape ρ) (r : ρ) : Value := .object (shape.members r)

/-- The field with the given key. -/
def field? (shape : Shape ρ) (name : String) : Option (Field ρ) :=
  shape.fields.find? fun f => f.name == name

/-- Reads the members of a record into a draft that has the fields seen so far. -/
def decodeMembers (shape : Shape ρ) (source : Source) (seen : List String) (draft : ρ) :
    List (Document × Document) → Except ReadError ρ
  | [] =>
    match shape.fields.find? fun f => f.needed && !seen.contains f.name with
    | some f => .error (.data (.missingField f.name))
    | none => .ok draft
  | (k, d) :: rest => do
    let name ← ofSyntax k.key
    match shape.field? name with
    | none => do
      ofSyntax d.skip
      decodeMembers shape source seen draft rest
    | some f =>
      if seen.contains name then .error (.data (.duplicateField name))
      else do
        let a ← f.codec.decode source d
        decodeMembers shape source (name :: seen) (f.set a draft) rest

/-- Reads the fields of a record from a list, of which `i` items have been read. -/
def decodeItems (shape : Shape ρ) (source : Source) (i : Nat) (draft : ρ) :
    List (Field ρ) → List Document → Except ReadError ρ
  | [], items =>
    match source with
    | .text => (checkTail items).map fun _ => draft
    | .whole =>
      if items = [] then .ok draft
      else .error (.data (.invalidLength (i + items.length) (elements i ++ " in sequence")))
  | f :: fs, [] =>
    if f.needed then
      .error (.data (.invalidLength i (shape.title ++ " with " ++ elements shape.fields.length)))
    else decodeItems shape source i draft fs []
  | f :: fs, d :: items => do
    let a ← f.codec.decode source d
    decodeItems shape source (i + 1) (f.set a draft) fs items

/-- Reads a record. -/
def decode (shape : Shape ρ) (source : Source) : Document → Except ReadError ρ
  | .object members => decodeMembers shape source [] shape.blank members
  | .list items => decodeItems shape source 0 shape.blank shape.fields items
  | d => .error (mismatch shape.title d)

/-- The codec of the records of a shape. -/
def codec (shape : Shape ρ) : Codec ρ := ⟨shape.encode, shape.decode⟩

end Shape

end DataGovernance.Record
