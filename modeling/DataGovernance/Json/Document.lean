import DataGovernance.Json.Number

/-!
# Documents: JSON as it was found

A document is the tree of a JSON text as far as the text can be read. Where the text goes wrong the
tree has a fault, which says what stands there. Nothing is reported yet: a fault is an error for
those readers that come to it, and which error depends on what the reader wanted there. So a reader
that goes through a document in order reports the first thing wrong with it, be that a fault or a
value of the wrong kind.

The members of an object are pairs of a key and a value. A key is a document too, because a text may
hold anything in a key's place.

Key definitions: `SyntaxError`, `Fault`, `Document`, `Document.read`, `Document.skip`.
-/

namespace DataGovernance.Json

/-- The ways in which a text can fail to be JSON. -/
inductive SyntaxError where
  | eofList
  | eofObject
  | eofString
  | eofValue
  | expectedColon
  | expectedItemEnd
  | expectedMemberEnd
  | expectedWord
  | expectedValue
  | invalidEscape
  | invalidNumber
  | numberOutOfRange
  | controlCharacter
  | keyNotString
  | loneSurrogate
  | unpairedSurrogate
  | trailingComma
  | trailingCharacters
  | tooDeep
  deriving DecidableEq, Repr

namespace SyntaxError

/-- The wording of a syntax error. -/
def message : SyntaxError → String
  | eofList => "EOF while parsing a list"
  | eofObject => "EOF while parsing an object"
  | eofString => "EOF while parsing a string"
  | eofValue => "EOF while parsing a value"
  | expectedColon => "expected `:`"
  | expectedItemEnd => "expected `,` or `]`"
  | expectedMemberEnd => "expected `,` or `\x7d`"
  | expectedWord => "expected ident"
  | expectedValue => "expected value"
  | invalidEscape => "invalid escape"
  | invalidNumber => "invalid number"
  | numberOutOfRange => "number out of range"
  | controlCharacter => "control character (\\u0000-\\u001F) found while parsing a string"
  | keyNotString => "key must be a string"
  | loneSurrogate => "lone leading surrogate in hex escape"
  | unpairedSurrogate => "unexpected end of hex escape"
  | trailingComma => "trailing comma"
  | trailingCharacters => "trailing characters"
  | tooDeep => "recursion limit exceeded"

end SyntaxError

/-- What stands in a text where a value or a key should. -/
inductive Fault where
  /-- A string literal that cannot be read; it can be passed over if there is no second error. -/
  | text (onRead : SyntaxError) (onSkip : Option SyntaxError)
  /-- A number literal that cannot be read; it can be passed over if there is no second error. -/
  | number (onRead : SyntaxError) (onSkip : Option SyntaxError)
  /-- The beginning of `null`, gone wrong. -/
  | null (error : SyntaxError)
  /-- The beginning of `true` or `false`, gone wrong. -/
  | flag (error : SyntaxError)
  /-- A character that begins no value. -/
  | stray
  /-- The end of the text. -/
  | nothing
  /-- No bracket or comma after an item, or no item after a comma. -/
  | item (error : SyntaxError)
  /-- No colon after a key. -/
  | colon (error : SyntaxError)
  /-- No key, or no brace or comma after a member. -/
  | member (error : SyntaxError)
  deriving DecidableEq, Repr

namespace Fault

/-- The error of a reader that wants the value. -/
def read : Fault → SyntaxError
  | text e _ => e
  | number e _ => e
  | null e => e
  | flag e => e
  | stray => .expectedValue
  | nothing => .eofValue
  | item e => e
  | colon e => e
  | member .eofObject => .eofValue
  | member .eofValue => .eofValue
  | member _ => .expectedValue

/-- The error of a reader that passes over the value, if it cannot. -/
def skip : Fault → Option SyntaxError
  | text _ e => e
  | number _ e => e
  | null e => some e
  | flag e => some e
  | stray => some .expectedValue
  | nothing => some .eofValue
  | item .trailingComma => some .expectedValue
  | item e => some e
  | colon e => some e
  | member e => some e

/-- The error of a reader that wants a word or an object with a single member. -/
def choose : Fault → SyntaxError
  | text e _ => e
  | nothing => .eofValue
  | item e => e
  | colon e => e
  | number _ _ => .expectedValue
  | null _ => .expectedValue
  | flag _ => .expectedValue
  | stray => .expectedValue
  | member _ => .expectedValue

end Fault

/-- A JSON text as a tree. -/
inductive Document where
  | null
  | bool (b : Bool)
  | num (n : Number)
  | str (s : String)
  | list (items : List Document)
  | object (members : List (Document × Document))
  | fault (f : Fault)
  deriving Repr

namespace Document

/-- The key that a document is, for a reader of an object's members. -/
def key : Document → Except SyntaxError String
  | str s => .ok s
  | fault (.text e _) => .error e
  | fault (.member e) => .error e
  | _ => .error .keyNotString

/-- Passes over a key. -/
def skipKey : Document → Except SyntaxError Unit
  | str _ => .ok ()
  | fault (.text _ none) => .ok ()
  | fault (.text _ (some e)) => .error e
  | fault (.member .trailingComma) => .error .keyNotString
  | fault (.member .eofValue) => .error .eofObject
  | fault (.member e) => .error e
  | _ => .error .keyNotString

mutual

/-- Passes over a document: only what keeps its end from being found is an error. -/
def skip : Document → Except SyntaxError Unit
  | list items => skipItems items
  | object members => skipMembers members
  | fault f => match f.skip with
    | some e => .error e
    | none => .ok ()
  | _ => .ok ()

/-- Passes over the items of a list. -/
def skipItems : List Document → Except SyntaxError Unit
  | [] => .ok ()
  | d :: rest => do skip d; skipItems rest

/-- Passes over the members of an object. -/
def skipMembers : List (Document × Document) → Except SyntaxError Unit
  | [] => .ok ()
  | (k, d) :: rest => do skipKey k; skip d; skipMembers rest

end

/-- The depth at which a document is too deep to be taken whole. -/
def maxDepth : Nat := 128

mutual

/-- Reads a document whole, which is inside `depth` lists and objects: every fault in it is an
error, and so is a list or object at the greatest depth. -/
def check (depth : Nat) : Document → Except SyntaxError Unit
  | list items =>
    if depth + 1 = maxDepth then .error .tooDeep else checkItems (depth + 1) items
  | object members =>
    if depth + 1 = maxDepth then .error .tooDeep else checkMembers (depth + 1) members
  | fault f => .error f.read
  | _ => .ok ()

/-- Reads the items of a list whole. -/
def checkItems (depth : Nat) : List Document → Except SyntaxError Unit
  | [] => .ok ()
  | d :: rest => do check depth d; checkItems depth rest

/-- Reads the members of an object whole. -/
def checkMembers (depth : Nat) : List (Document × Document) → Except SyntaxError Unit
  | [] => .ok ()
  | (k, d) :: rest => do discard k.key; check depth d; checkMembers depth rest

end

end Document

end DataGovernance.Json
