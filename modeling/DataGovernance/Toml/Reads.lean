import DataGovernance.Toml.Fault

/-!
# Reading step by step

A reading takes characters from the front of a text and gives a result, or a fault. When a reading
faults another one may be tried on the same text, unless the fault is settled.

Key definitions: `Reads`, `oneOf`, `literal`, `settle`, `orElse`, `many`.
-/

namespace DataGovernance.Toml

/-- A reading: what is taken from the front of a text gives a result, or a fault. -/
abbrev Reads := StateT (List Char) (Except Fault)

namespace Reads

variable {α β : Type}

/-- Faults where the reading stands. -/
def fail : Reads α := fun cs => .error { rest := cs }

/-- Takes one character of a kind. -/
def oneOf (p : Char → Bool) : Reads Char := fun cs =>
  match cs with
  | c :: rest => if p c then .ok (c, rest) else .error { rest := cs }
  | [] => .error { rest := [] }

/-- Takes one character. -/
def char (c : Char) : Reads Unit := do
  let _ ← oneOf (· == c)

/-- Takes a text as a whole. -/
def literal (s : String) : Reads Unit := fun cs =>
  if s.toList.isPrefixOf cs then .ok ((), cs.drop s.length) else .error { rest := cs }

/-- Takes all characters of a kind. -/
def takeWhile (p : Char → Bool) : Reads (List Char) := fun cs => .ok (cs.span p)

/-- Takes as many characters of a kind as there are, at least one. -/
def takeSome (p : Char → Bool) : Reads (List Char) := fun cs =>
  match cs.span p with
  | ([], _) => .error { rest := cs }
  | (run, rest) => .ok (run, rest)

/-- Takes an exact number of characters of a kind. -/
def takeExactly (p : Char → Bool) (n : Nat) : Reads (List Char) := fun cs =>
  if (cs.take n).length = n ∧ (cs.take n).all p then .ok (cs.take n, cs.drop n)
  else .error { rest := cs }

/-- The character that comes next. -/
def peek? : Reads (Option Char) := fun cs => .ok (cs.head?, cs)

/-- Whether a text comes next. -/
def sees (s : String) : Reads Bool := fun cs => .ok (s.toList.isPrefixOf cs, cs)

/-- Changes the fault of a reading. -/
def onFault (f : Fault → Fault) (r : Reads α) : Reads α := fun cs =>
  match r cs with
  | .ok a => .ok a
  | .error e => .error (f e)

/-- Lets no other reading be tried. -/
def settle (r : Reads α) : Reads α := onFault (fun e => { e with settled := true }) r

/-- Names the construct that a reading is for. -/
def inside (name : String) (r : Reads α) : Reads α :=
  onFault (fun e => { e with inside := e.inside.or (some name) }) r

/-- Says what could have stood in the place of a fault. -/
def expecting (whats : List String) (r : Reads α) : Reads α :=
  onFault (fun e => { e with expected := e.expected ++ whats }) r

/-- Reads again from the start when a reading faults and the fault is not settled. -/
def orElse (r s : Reads α) : Reads α := fun cs =>
  match r cs with
  | .ok a => .ok a
  | .error e => if e.settled then .error e else s cs

/-- Reads something that may be absent. -/
def optional (r : Reads α) : Reads (Option α) := orElse (r.map some) (pure none)

/-- Reads at most `n` times in a row. -/
def manyUpTo (r : Reads α) : Nat → Reads (List α)
  | 0 => pure []
  | n + 1 => fun cs =>
    match r cs with
    | .ok (a, rest) => ((a :: ·) <$> manyUpTo r n) rest
    | .error e => if e.settled then .error e else .ok ([], cs)

/-- Reads as often in a row as possible. Each time at least one character is taken. -/
def many (r : Reads α) : Reads (List α) := fun cs => manyUpTo r (cs.length + 1) cs

/-- Reads as often as possible with a separator in between, at least once. -/
def separated (sep : Reads Unit) (r : Reads α) : Reads (List α) := do
  let a ← r
  let as ← many (do sep; r)
  return a :: as

/-- Judges what has been read; the fault is where the reading began. -/
def judged (f : α → Except String β) (r : Reads α) : Reads β := fun cs =>
  match r cs with
  | .error e => .error e
  | .ok (a, rest) =>
    match f a with
    | .ok b => .ok (b, rest)
    | .error cause => .error { rest := cs, cause := some cause }

end Reads

/-! ### Blanks, line ends and comments -/

open Reads

/-- Space and tab. -/
def isSpace (c : Char) : Bool := c == ' ' || c == '\t'

/-- A character that may stand in a comment. -/
def isCommentChar (c : Char) : Bool := c == '\t' || (' ' ≤ c && c != '\x7F')

/-- Passes over spaces. -/
def spaces : Reads Unit := do
  let _ ← takeWhile isSpace

/-- The end of a line. The fault is behind a character that begins none. -/
def newline : Reads Unit := do
  match ← oneOf (fun _ => true) with
  | '\n' => return
  | '\r' => char '\n'
  | _ => fail

/-- The end of the text. -/
def endOfText : Reads Unit := fun cs =>
  match cs with
  | [] => .ok ((), [])
  | _ => .error { rest := cs }

/-- A comment, up to the end of the line. -/
def comment : Reads Unit := do
  char '#'
  let _ ← takeWhile isCommentChar

/-- The end of a line or of the text. -/
def lineEnd : Reads Unit := orElse newline endOfText

/-- What may follow an entry in its line. -/
def lineRest : Reads Unit :=
  expecting ["newline", "`#`"] do
    spaces
    let _ ← optional comment
    lineEnd

/-- Passes over spaces and at most `n` lines' ends, each with the comment before it. What begins
with the first character of a comment or of a line end has to be one. -/
def gapsUpTo : Nat → Reads Unit
  | 0 => pure ()
  | n + 1 => do
    spaces
    match ← peek? with
    | some '#' => do comment; newline; gapsUpTo n
    | some '\n' => do newline; gapsUpTo n
    | some '\r' => do newline; gapsUpTo n
    | _ => pure ()

/-- Passes over spaces, line ends and comments. -/
def gaps : Reads Unit := fun cs => gapsUpTo (cs.length + 1) cs

end DataGovernance.Toml
