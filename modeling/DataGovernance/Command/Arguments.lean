import DataGovernance.Command.Basic

/-!
# Reading the arguments of the command line

Arguments are read from left to right. Options may stand before the name of the command and between
its values; two hyphens end them. An option is written with two hyphens and its name, or with one
hyphen and its letter, and letters may be put together. A value follows its option, behind an equals
sign or a letter in the same argument, or as the next argument, which must not look like an option.
No option may be given twice before the name, or twice behind it; behind it outweighs before it.

Key definitions: `Given`, `Level`, `Level.read`, `Invocation`, `Invocation.ofArguments`.
-/

namespace DataGovernance

/-- Why the reading of arguments ends early. -/
inductive Stop where
  | misuse
  | help
  | version
  deriving DecidableEq, Repr

/-- What arguments have given so far. -/
structure Given where
  format : Option OutputFormat := none
  quiet : Bool := false
  verbose : Bool := false
  write : Bool := false
  direction : Option String := none
  /-- The values that belong to no option, in order. -/
  values : List String := []
  /-- An option that stands before its value, and the value once it is there. The value is judged
  when the next option comes, or at the end. -/
  waiting : Option (Switch × Option String) := none
  deriving Repr

namespace Given

/-- Sets a flag that is not set yet. -/
def raise (isSet : Bool) (g : Given) : Except Stop Given :=
  if isSet then .error .misuse else .ok g

/-- Takes an option without a value. -/
def takeFlag (g : Given) : Switch → Except Stop Given
  | .write => raise g.write { g with write := true }
  | .quiet => raise g.quiet { g with quiet := true }
  | .verbose => raise g.verbose { g with verbose := true }
  | .help => .error .help
  | .version => .error .version
  | _ => .error .misuse

/-- Takes an option with its value. -/
def takeValue (g : Given) (v : String) : Switch → Except Stop Given
  | .direction => raise g.direction.isSome { g with direction := some v }
  | .format =>
    match Vocabulary.ofWord? v with
    | some f => raise g.format.isSome { g with format := some f }
    | none => .error .misuse
  | _ => .error .misuse

/-- Judges the option that waits. -/
def judge (g : Given) : Except Stop Given :=
  match g.waiting with
  | none => .ok g
  | some (_, none) => .error .misuse
  | some (s, some v) => { g with waiting := none }.takeValue v s

end Given

/-- A part of the command line with options and values of its own. -/
structure Level where
  switches : List Switch
  /-- How many values there are. -/
  arity : Nat
  /-- Whether a name of a command may follow. -/
  hasNames : Bool
  deriving DecidableEq, Repr

/-- The word that asks for help in the place of a command. -/
def helpWord : String := "help"

namespace Level

/-- The part before the name of the command. -/
def front : Level := ⟨Switch.shared ++ [.version], 0, true⟩

/-- The part behind the name of a command. -/
def behind (name : CommandName) : Level := ⟨name.switches, name.values.length, false⟩

/-- Reads options that are written with letters. -/
def readLetters (l : Level) (g : Given) : List Char → Except Stop Given
  | [] => .ok g
  | c :: rest =>
    match l.switches.find? fun s => s.letter? == some c with
    | none => .error .misuse
    | some s => do
      let g ← g.judge
      if s.takesValue then
        match rest with
        | [] => .ok { g with waiting := some (s, none) }
        | '=' :: v => g.takeValue (String.ofList v) s
        | v => g.takeValue (String.ofList v) s
      else do
        let g ← g.takeFlag s
        readLetters l g rest

/-- Reads an option that is written with its name. -/
def readName (l : Level) (g : Given) (cs : List Char) : Except Stop Given :=
  let (name, rest) := cs.span fun c => c != '='
  match l.switches.find? fun s => Vocabulary.word s == String.ofList name with
  | none => .error .misuse
  | some s => do
    let g ← g.judge
    match s.takesValue, rest with
    | true, [] => .ok { g with waiting := some (s, none) }
    | true, _ :: v => g.takeValue (String.ofList v) s
    | false, [] => g.takeFlag s
    | false, _ => .error .misuse

/-- Reads a value that belongs to no option. The first one, a file, must not be empty. -/
def readValue (l : Level) (g : Given) (a : String) : Except Stop Given := do
  let g ← g.judge
  if l.arity ≤ g.values.length ∨ (g.values = [] ∧ a = "") then .error .misuse
  else .ok { g with values := g.values ++ [a] }

/-- Whether an argument is the name of a command or asks for help. -/
def isName (a : String) : Bool := a == helpWord || (Vocabulary.words CommandName).contains a

/-- Reads arguments up to the name of a command or the end. Gives the name with what follows it. -/
def read (l : Level) (onlyValues : Bool) (g : Given) :
    List String → Except Stop (Given × Option (String × List String))
  | [] => .ok (g, none)
  | a :: rest =>
    if onlyValues then do read l true (← l.readValue g a) rest
    else
      match g.waiting, a.toList with
      | _, ['-', '-'] => read l true g rest
      | _, '-' :: '-' :: cs => do read l false (← l.readName g cs) rest
      | some (s, none), ['-'] => read l false { g with waiting := some (s, some a) } rest
      | _, ['-'] => do read l false (← l.readValue g a) rest
      | _, '-' :: cs => do read l false (← l.readLetters g cs) rest
      | some (s, none), _ => read l false { g with waiting := some (s, some a) } rest
      | _, _ =>
        if l.hasNames && isName a then .ok (g, some (a, rest))
        else do read l false (← l.readValue g a) rest

end Level

/-- What help is asked for. -/
inductive HelpTopic where
  | overview
  | command (name : CommandName)
  /-- The help on asking for help. -/
  | helping
  deriving DecidableEq, Repr

/-- What the command line asks for. -/
inductive Invocation where
  | run (r : Request)
  | help (topic : HelpTopic)
  | version
  | misuse
  deriving DecidableEq, Repr

/-- The direction in which lineage is followed unless one is given. -/
def defaultDirection : String := "downstream"

/-- The command of a name with what has been given. -/
def Command.ofGiven? (name : CommandName) (g : Given) : Option Command :=
  match name, g.values with
  | .summary, [file] => some (.summary file)
  | .gates, [file] => some (.gates file)
  | .status, [file] => some (.status file)
  | .advance, [file] => some (.advance file g.write)
  | .back, [file] => some (.back file g.write)
  | .apply, [file, mutation] => some (.apply file mutation g.write)
  | .lineage, [file, node] => some (.lineage file node (g.direction.getD defaultDirection))
  | .impact, [file, node] => some (.impact file node)
  | .validateResolution, [file, issue] => some (.validateResolution file issue)
  | .schema, [] => some .schema
  | _, _ => none

namespace Invocation

/-- What comes of a reading that ended early. -/
def ofStop (topic : HelpTopic) : Stop → Invocation
  | .misuse => misuse
  | .help => help topic
  | .version => version

/-- The help that words behind the word for help ask for. -/
def ofHelp : List String → Invocation
  | [] => help .overview
  | [a] =>
    if a = helpWord then help .helping
    else match Vocabulary.ofWord? a with
      | some name => help (.command name)
      | none => misuse
  | _ => misuse

/-- Reads what follows the name of a command, `front` being what was given before it. -/
def ofCommand (front : Given) (name : CommandName) (rest : List String) : Invocation :=
  let reading : Except Stop Request := do
    let (g, _) ← (Level.behind name).read false {} rest
    let g ← g.judge
    match Command.ofGiven? name g with
    | none => .error Stop.misuse
    | some command => do
      let front ← front.judge
      .ok {
        command,
        format := g.format.or front.format,
        quiet := g.quiet || front.quiet,
        verbose := g.verbose || front.verbose }
  match reading with
  | .ok r => run r
  | .error e => ofStop (.command name) e

/-- What the arguments of the command line ask for. -/
def ofArguments (args : List String) : Invocation :=
  match Level.front.read false {} args with
  | .error e => ofStop .overview e
  | .ok (_, none) => misuse
  | .ok (g, some (a, rest)) =>
    if a = helpWord then ofHelp rest
    else match Vocabulary.ofWord? a with
      | some name => ofCommand g name rest
      | none => misuse

end Invocation

end DataGovernance
