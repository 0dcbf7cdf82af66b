import DataGovernance.Json.Token

/-!
# From text to document

The tokens of a text are taken one by one. Lists and objects that have been opened and not yet
closed wait on a stack, innermost first; `step` says what a token does to the place that the reading
has come to, and `atEnd` what the end of the text does to it. When something stands where it cannot,
every open list and object ends with the fault that it is.

Key definitions: `Place`, `Waiting`, `step`, `atEnd`, `Reading.ofText`.
-/

namespace DataGovernance.Json

/-- A list or an object that waits for the value being read. Its earlier items or members come
latest first. -/
inductive Waiting where
  | item (done : List Document)
  | member (done : List (Document × Document)) (key : Document)

/-- What the reading has come to. -/
inductive Place where
  /-- A value has to follow. -/
  | value
  /-- A list has been opened. -/
  | listStart
  /-- An item has been read. -/
  | afterItem (done : List Document)
  /-- A comma behind an item has been read. -/
  | nextItem (done : List Document)
  /-- An object has been opened. -/
  | objectStart
  /-- A key has been read. -/
  | afterKey (done : List (Document × Document)) (key : Document)
  /-- A member has been read. -/
  | afterMember (done : List (Document × Document))
  /-- A comma behind a member has been read. -/
  | nextKey (done : List (Document × Document))
  /-- The whole value has been read. -/
  | finished (d : Document)

/-- Hands a value to the list or object that waits for it. -/
def settle (d : Document) : List Waiting → Place × List Waiting
  | [] => (.finished d, [])
  | .item done :: waiting => (.afterItem (d :: done), waiting)
  | .member done key :: waiting => (.afterMember ((key, d) :: done), waiting)

/-- Ends everything that waits with a document that cannot be continued. -/
def abandon (d : Document) : List Waiting → Document
  | [] => d
  | .item done :: waiting => abandon (.list (d :: done).reverse) waiting
  | .member done key :: waiting => abandon (.object ((key, d) :: done).reverse) waiting

/-- Ends the reading with a fault in a value's place. -/
def failValue (f : Fault) (waiting : List Waiting) : Place × List Waiting :=
  (.finished (abandon (.fault f) waiting), [])

/-- Ends the reading with a fault in a key's place. -/
def failMember (done : List (Document × Document)) (key : Document) (f : Fault)
    (waiting : List Waiting) : Place × List Waiting :=
  failValue f (.member done key :: waiting)

/-- A token in a value's place. -/
def stepValue (waiting : List Waiting) : Token → Place × List Waiting
  | .scalar d => settle d waiting
  | .openList => (.listStart, waiting)
  | .openObject => (.objectStart, waiting)
  | .closeList => failValue .stray waiting
  | .closeObject => failValue .stray waiting
  | .comma => failValue .stray waiting
  | .colon => failValue .stray waiting

/-- A token in a key's place. What is no string is kept as the key that it is not. -/
def stepKey (done : List (Document × Document)) (waiting : List Waiting) :
    Token → Place × List Waiting
  | .scalar d => (.afterKey done d, waiting)
  | .openList => failMember done (.list []) .stray waiting
  | .openObject => failMember done (.object []) .stray waiting
  | .closeList => failMember done (.fault .stray) .stray waiting
  | .closeObject => failMember done (.fault .stray) .stray waiting
  | .comma => failMember done (.fault .stray) .stray waiting
  | .colon => failMember done (.fault .stray) .stray waiting

/-- What a token does to the place that the reading has come to. -/
def step (place : Place) (waiting : List Waiting) (t : Token) : Place × List Waiting :=
  match place with
  | .value => stepValue waiting t
  | .listStart =>
    match t with
    | .closeList => settle (.list []) waiting
    | t => stepValue (.item [] :: waiting) t
  | .afterItem done =>
    match t with
    | .comma => (.nextItem done, waiting)
    | .closeList => settle (.list done.reverse) waiting
    | _ => failValue (.item .expectedItemEnd) (.item done :: waiting)
  | .nextItem done =>
    match t with
    | .closeList => failValue (.item .trailingComma) (.item done :: waiting)
    | t => stepValue (.item done :: waiting) t
  | .objectStart =>
    match t with
    | .closeObject => settle (.object []) waiting
    | t => stepKey [] waiting t
  | .afterKey done key =>
    match t with
    | .colon => (.value, .member done key :: waiting)
    | _ => failMember done key (.colon .expectedColon) waiting
  | .afterMember done =>
    match t with
    | .comma => (.nextKey done, waiting)
    | .closeObject => settle (.object done.reverse) waiting
    | _ => failMember done (.fault (.member .expectedMemberEnd)) .stray waiting
  | .nextKey done =>
    match t with
    | .closeObject => failMember done (.fault (.member .trailingComma)) .stray waiting
    | t => stepKey done waiting t
  | .finished d => (.finished d, waiting)

/-- What the end of the text makes of the place that the reading has come to. -/
def atEnd (place : Place) (waiting : List Waiting) : Document :=
  match place with
  | .value => abandon (.fault .nothing) waiting
  | .listStart => abandon (.fault (.item .eofList)) (.item [] :: waiting)
  | .afterItem done => abandon (.fault (.item .eofList)) (.item done :: waiting)
  | .nextItem done => abandon (.fault .nothing) (.item done :: waiting)
  | .objectStart =>
    abandon (.fault .nothing) (.member [] (.fault (.member .eofObject)) :: waiting)
  | .afterKey done key => abandon (.fault (.colon .eofObject)) (.member done key :: waiting)
  | .afterMember done =>
    abandon (.fault .nothing) (.member done (.fault (.member .eofObject)) :: waiting)
  | .nextKey done =>
    abandon (.fault .nothing) (.member done (.fault (.member .eofValue)) :: waiting)
  | .finished d => d

/-- A document and the tokens behind it. -/
structure Reading where
  document : Document
  trailing : List Token

/-- Takes tokens until a whole value has been read. -/
def Reading.ofTokens (place : Place) (waiting : List Waiting) : List Token → Reading
  | [] => ⟨atEnd place waiting, []⟩
  | t :: ts =>
    match place with
    | .finished d => ⟨d, t :: ts⟩
    | place => Reading.ofTokens (step place waiting t).1 (step place waiting t).2 ts

/-- Reads a text. -/
def Reading.ofText (text : String) : Reading :=
  Reading.ofTokens .value [] (Token.scan text.toList)

end DataGovernance.Json
