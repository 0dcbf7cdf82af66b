import DataGovernance.Settings.Environment
import DataGovernance.Text.Alphanumeric
import DataGovernance.Text.Lines

/-!
# Files of variables

A file can set variables that the environment does not have: a name, an equals sign and a value to a
line. A value may stand between single quotes, where every character counts as it is, or between
double quotes, where a backslash escapes and a dollar sign puts in the value of a variable. Quotes
and escapes can carry a line over its end. The first line that cannot be read ends the file.

The name that a line sets is made of English letters, digits, underscores and points. In a value, a
name behind a dollar sign ends with the last letter or digit of any script, unless it stands between
braces.

Key definitions: `joinLines`, `assignment?`, `Environment.withFile`.
-/

namespace DataGovernance.VariableFile

open Text

/-! ### Lines -/

/-- What the characters of a line have come to. -/
inductive Place where
  | plain
  | blank
  | escaped
  | single
  | singleEscaped
  | double
  | doubleEscaped
  deriving DecidableEq, Repr

/-- What a character outside of quotes leads to. -/
def Place.ofOutside (c : Char) : Place :=
  if c = '\\' then escaped
  else if c = '"' then double
  else if c = '\'' then single
  else plain

/-- What a character leads to. -/
def Place.next (c : Char) : Place → Place
  | plain => if isBlankChar c ∧ c ≠ '\n' ∧ c ≠ '\r' then blank else ofOutside c
  | blank => ofOutside c
  | escaped => plain
  | single => if c = '\\' then singleEscaped else if c = '\'' then plain else single
  | singleEscaped => single
  | double => if c = '\\' then doubleEscaped else if c = '"' then plain else double
  | doubleEscaped => double

/-- Goes through a line. Gives what stands before a comment, or else the place that is reached. -/
def scanLine (place : Place) : List Char → Except (List Char) Place
  | [] => .ok place
  | c :: cs =>
    if place = .blank ∧ c = '#' then .error []
    else
      match scanLine (place.next c) cs with
      | .ok p => .ok p
      | .error before => .error (c :: before)

/-- A text without the line end at its end. -/
def dropLineEnd (cs : List Char) : List Char :=
  match cs.reverse with
  | '\n' :: '\r' :: rest => rest.reverse
  | '\n' :: rest => rest.reverse
  | _ => cs

/-- Joins the lines that quotes and escapes carry over. Nothing stands for a line that does not
end. -/
def joinLines (place : Place) (before : List Char) : List (List Char) → List (Option (List Char))
  | [] => if place = .plain then [] else [none]
  | l :: ls =>
    if (trimStart (before ++ l)).head? = some '#' then some [] :: joinLines .plain [] ls
    else
      match scanLine place l with
      | .error kept => some (before ++ kept) :: joinLines .plain [] ls
      | .ok .plain => some (dropLineEnd (before ++ l)) :: joinLines .plain [] ls
      | .ok place => joinLines place (before ++ l) ls

/-! ### Values -/

/-- What the characters of a value have come to. -/
inductive ValuePlace where
  | plain
  | escaped
  | single
  /-- A name behind a dollar sign. -/
  | name (n : List Char)
  /-- A name between braces. -/
  | braced (n : List Char)
  /-- The value is over; only a comment may follow. -/
  | over
  deriving DecidableEq, Repr

/-- The character that an escape stands for. -/
def unescape? (c : Char) : Option Char :=
  if c = 'n' then some '\n'
  else if c = '\\' ∨ c = '\'' ∨ c = '"' ∨ c = '$' ∨ c = ' ' then some c
  else none

/-- The value of a variable, empty when there is none. It is what follows the name and an equals
sign in the first assignment that begins with these, so that a name may go on behind an equals
sign. -/
def valueOf (env : Environment) (name : List Char) : List Char :=
  if name = [] then []
  else
    let start := name ++ ['=']
    let assignments := env.map fun (n, v) => n.toList ++ '=' :: v.toList
    ((assignments.find? start.isPrefixOf).map (·.drop start.length)).getD []

/-- Reads a value; `double` says whether it is between double quotes. -/
def value? (env : Environment) (double : Bool) : ValuePlace → List Char → Option (List Char)
  | .plain, [] => if double then none else some []
  | .escaped, [] => if double then none else some []
  | .name n, [] => if double then none else some (valueOf env n)
  | .single, [] => none
  | .braced _, [] => none
  | .over, [] => some []
  | .over, c :: cs =>
    if c = ' ' ∨ c = '\t' then value? env double .over cs
    else if c = '#' then some []
    else none
  | .escaped, c :: cs => do
    let c ← unescape? c
    return c :: (← value? env double .plain cs)
  | .single, c :: cs =>
    if c = '\'' then value? env double .plain cs
    else (value? env double .single cs).map (c :: ·)
  | .name n, c :: cs =>
    if isAlphanumeric c then value? env double (.name (n ++ [c])) cs
    else if c = '\x7b' ∧ n = [] then value? env double (.braced []) cs
    else if c = '$' then (value? env double (.name []) cs).map (valueOf env n ++ ·)
    else (value? env double .plain cs).map fun rest => valueOf env n ++ c :: rest
  | .braced n, c :: cs =>
    if c = '\x7d' then (value? env double .plain cs).map (valueOf env n ++ ·)
    else value? env double (.braced (n ++ [c])) cs
  | .plain, c :: cs =>
    if c = '$' then value? env double (.name []) cs
    else if c = '\\' then value? env double .escaped cs
    else if c = '"' then value? env (!double) .plain cs
    else if double then (value? env double .plain cs).map (c :: ·)
    else if c = '\'' then value? env double .single cs
    else if c = ' ' ∨ c = '\t' then value? env double .over cs
    else (value? env double .plain cs).map (c :: ·)

/-! ### Assignments -/

/-- A name at the front of a line. -/
def name? (cs : List Char) : Option (List Char × List Char) :=
  match cs with
  | c :: _ =>
    if c.isAlpha ∨ c = '_' then some (cs.span fun c => c.isAlphanum || c == '_' || c == '.')
    else none
  | [] => none

/-- The equals sign behind a name, with blanks around it. -/
def equals? (cs : List Char) : Option (List Char) :=
  match trimStart cs with
  | '=' :: rest => some (trimStart rest)
  | _ => none

/-- The name and the value that a line sets. The word `export` may stand before the name. -/
def assignment? (env : Environment) (line : List Char) : Option (String × String) := do
  let (name, rest) ← name? line
  let (name, rest) ← match equals? rest with
    | some rest => some (name, rest)
    | none =>
      if name = "export".toList then do
        let (name, rest) ← name? (trimStart rest)
        let rest ← equals? rest
        some (name, rest)
      else none
  let v ← if rest.head? = some '#' then some [] else value? env false .plain rest
  return (String.ofList name, String.ofList v)

/-- Sets the variables of lines that are not set yet. -/
def setAll (env : Environment) : List (Option (List Char)) → Environment
  | [] => env
  | none :: _ => env
  | some line :: lines =>
    let line := trim line
    if line = [] ∨ line.head? = some '#' then setAll env lines
    else
      match assignment? env line with
      | none => env
      | some (name, v) =>
        setAll (if (env.lookup name).isSome then env else env ++ [(name, v)]) lines

end VariableFile

/-- An environment with the variables of a file that it does not have itself. -/
def Environment.withFile (env : Environment) (text : String) : Environment :=
  let cs := match text.toList with
    | '\uFEFF' :: cs => cs
    | cs => cs
  VariableFile.setAll env (VariableFile.joinLines .plain [] (Text.cutBehind '\n' cs))

end DataGovernance
