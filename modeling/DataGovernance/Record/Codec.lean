import DataGovernance.Json.Reader
import DataGovernance.Record.Error

/-!
# Codecs

A codec writes the values of a type as JSON and reads them back from a document. A document may be
read as its text goes by, or after it has been taken whole; the difference shows only in how words
and surplus items are refused.

A codec is faithful when it reads back what it writes, in both ways.

Key definitions: `Source`, `Codec`, `Codec.Faithful`; the codecs `text`, `flag`, `natural`,
`timestamp`, `word`, `option`, `list`.
Key theorems: one `faithful_…` for each of them.
-/

namespace DataGovernance.Record

open Json

/-- Whether a document is read as its text goes by, or has been taken whole. -/
inductive Source where
  | text
  | whole
  deriving DecidableEq, Repr

/-- How the values of a type are written and read. -/
structure Codec (α : Type) where
  encode : α → Value
  decode : Source → Document → Except ReadError α

namespace Codec

/-- What is written is read back. -/
def Faithful {α : Type} (c : Codec α) : Prop :=
  ∀ source a, c.decode source (Document.ofValue (c.encode a)) = .ok a

/-! ### Scalars -/

/-- Texts. -/
def text : Codec String where
  encode := .str
  decode _
    | .str s => .ok s
    | d => .error (mismatch "a string" d)

/-- Truth values. -/
def flag : Codec Bool where
  encode := .bool
  decode _
    | .bool b => .ok b
    | d => .error (mismatch "a boolean" d)

/-- Natural numbers below a bound, under the name of their kind. -/
def natural (kind : String) (bound : Nat) : Codec (Fin bound) where
  encode n := .int n.val
  decode _
    | .num (.int i) =>
      if h : 0 ≤ i ∧ i.toNat < bound then .ok ⟨i.toNat, h.2⟩
      else .error (.data (.invalidValue (.num (.int i)) kind))
    | d => .error (mismatch kind d)

/-- Points in time. -/
def timestamp : Codec Time.Timestamp where
  encode t := .str (String.ofList (Time.write t))
  decode _
    | .str s =>
      match Time.read s.toList with
      | .ok t => .ok t
      | .error e => .error (.data (.timestamp e))
    | d => .error (mismatch "an RFC 3339 formatted date and time string" d)

theorem faithful_text : text.Faithful := fun _ _ => rfl

theorem faithful_flag : flag.Faithful := fun _ _ => rfl

theorem faithful_natural (kind : String) (bound : Nat) : (natural kind bound).Faithful := by
  intro source n
  have := n.isLt
  simp only [natural, Document.ofValue]
  rw [dif_pos (by omega)]
  simp

/-! ### Words -/

/-- The member of a vocabulary that a word names. -/
def ofWord {α : Type} [Vocabulary α] (s : String) : Except ReadError α :=
  match Vocabulary.ofWord s with
  | .ok a => .ok a
  | .error e => .error (.data (.unknownWord e))

/-- The word that a document is. -/
def readWord {α : Type} [Vocabulary α] : Document → Except ReadError α
  | .str s => ofWord s
  | d => .error (mismatch "variant identifier" d)

/-- Reads the value that goes with a word that is written as the key of an object: null. -/
def readUnit : Source → Document → Except ReadError Unit
  | _, .null => .ok ()
  | .whole, .object [] => .ok ()
  | _, d => .error (mismatch "unit" d)

/-- Reads what comes behind the only member of an object. -/
def readObjectEnd : List (Document × Document) → Except ReadError Unit
  | [] => .ok ()
  | (.fault (.member .eofObject), _) :: _ => .error (.json .eofObject)
  | _ => .error (.json .expectedValue)

/-- The members of a vocabulary: a word, or an object with the word as its only key. -/
def word (α : Type) [Vocabulary α] : Codec α where
  encode a := .str (Vocabulary.word a)
  decode
    | _, .str s => ofWord s
    | .text, .object [] => .error (.json .expectedValue)
    | .text, .object ((k, d) :: rest) => do
      let a ← ofWord (← ofSyntax k.key)
      readUnit .text d
      readObjectEnd rest
      .ok a
    | .text, .fault f => .error (.json f.choose)
    | .text, _ => .error (.json .expectedValue)
    | .whole, .object [(k, d)] => do
      let a ← readWord k
      readUnit .whole d
      .ok a
    | .whole, .object _ => .error (.data (.invalidValue .object "map with a single key"))
    | .whole, d => .error (mismatch "string or map" d)

theorem faithful_word (α : Type) [Vocabulary α] : (word α).Faithful := by
  intro source a
  cases source <;> simp [word, Document.ofValue, ofWord, Vocabulary.ofWord_word]

/-! ### Options and lists -/

variable {α : Type}

/-- A value, or null for none. A null gone wrong is an error of its own. -/
def option (c : Codec α) : Codec (Option α) where
  encode
    | some a => c.encode a
    | none => .null
  decode
    | _, .null => .ok none
    | _, .fault (.null e) => .error (.json e)
    | source, d => (c.decode source d).map some

/-- Reads items one after another. -/
def decodeAll (c : Codec α) (source : Source) : List Document → Except ReadError (List α)
  | [] => .ok []
  | d :: rest => do
    let a ← c.decode source d
    let as ← decodeAll c source rest
    .ok (a :: as)

/-- Lists. -/
def list (c : Codec α) : Codec (List α) where
  encode as := .list (as.map c.encode)
  decode
    | source, .list items => decodeAll c source items
    | _, d => .error (mismatch "a sequence" d)

theorem faithful_option {c : Codec α} (h : c.Faithful) (hn : ∀ a, c.encode a ≠ .null) :
    (option c).Faithful := by
  intro source a
  cases a with
  | none => simp [option, Document.ofValue]
  | some a =>
    have hd : Document.ofValue (c.encode a) ≠ .null := by
      have := hn a
      cases hv : c.encode a <;> simp_all [Document.ofValue]
    have hf := Document.ofValue_ne_fault (c.encode a)
    have hdec := h source a
    cases hv : Document.ofValue (c.encode a) <;>
      simp_all [option, Except.map]

theorem faithful_list {c : Codec α} (h : c.Faithful) : (list c).Faithful := by
  intro source as
  simp only [list, Document.ofValue]
  induction as with
  | nil => rfl
  | cons a as ih =>
    simp only [List.map_cons, Document.ofItems, decodeAll, h source a, ih]
    rfl

/-! ### Whole texts -/

/-- Reads a text that holds one value and nothing behind it. -/
def ofText (c : Codec α) (text : String) : Except ReadError α := do
  let reading := Reading.ofText text
  let a ← c.decode .text reading.document
  match reading.trailing with
  | [] => .ok a
  | _ => .error (.json .trailingCharacters)

end Codec

end DataGovernance.Record
