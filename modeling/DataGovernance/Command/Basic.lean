import DataGovernance.Table.Rendering

/-!
# Commands

A command asks about the cycle in a snapshot file or performs an operation on it. It has a name,
values in a fixed order, the file first, and options. Options of every command say in which form its
answer is printed and how much is told besides.

Key definitions: `CommandName`, `CommandName.values`, `Switch`, `Command`, `Request`.
-/

namespace DataGovernance

/-- The names of the commands. -/
inductive CommandName where
  | summary
  | gates
  | status
  | advance
  | back
  | apply
  | lineage
  | impact
  | validateResolution
  | schema
  deriving DecidableEq, Repr

instance : Vocabulary CommandName where
  members :=
    [.summary, .gates, .status, .advance, .back, .apply, .lineage, .impact, .validateResolution,
      .schema]
  word
    | .summary => "summary"
    | .gates => "gates"
    | .status => "status"
    | .advance => "advance"
    | .back => "back"
    | .apply => "apply"
    | .lineage => "lineage"
    | .impact => "impact"
    | .validateResolution => "validate-resolution"
    | .schema => "schema"
  mem_members a := by cases a <;> decide
  nodup_words := by decide

/-- A value that a command takes. -/
inductive ValueName where
  | file
  | mutation
  | node
  | issue
  deriving DecidableEq, Repr

/-- An option. -/
inductive Switch where
  | write
  | direction
  | format
  | quiet
  | verbose
  | help
  | version
  deriving DecidableEq, Repr

instance : Vocabulary Switch where
  members := [.write, .direction, .format, .quiet, .verbose, .help, .version]
  word
    | .write => "write"
    | .direction => "direction"
    | .format => "format"
    | .quiet => "quiet"
    | .verbose => "verbose"
    | .help => "help"
    | .version => "version"
  mem_members a := by cases a <;> decide
  nodup_words := by decide

namespace Switch

/-- The letter that an option can be written with. -/
def letter? : Switch → Option Char
  | write => none
  | direction => some 'd'
  | format => some 'f'
  | quiet => some 'q'
  | verbose => some 'v'
  | help => some 'h'
  | version => some 'V'

/-- Whether a value belongs to an option. -/
def takesValue : Switch → Bool
  | direction => true
  | format => true
  | _ => false

/-- The options that every command takes. -/
def shared : List Switch := [format, quiet, verbose, help]

end Switch

namespace CommandName

/-- The values that a command takes, in order. -/
def values : CommandName → List ValueName
  | summary => [.file]
  | gates => [.file]
  | status => [.file]
  | advance => [.file]
  | back => [.file]
  | apply => [.file, .mutation]
  | lineage => [.file, .node]
  | impact => [.file, .node]
  | validateResolution => [.file, .issue]
  | schema => []

/-- The options that only some commands take. -/
def ownSwitches : CommandName → List Switch
  | advance => [.write]
  | back => [.write]
  | apply => [.write]
  | lineage => [.direction]
  | _ => []

/-- The options that a command takes. -/
def switches (name : CommandName) : List Switch := name.ownSwitches ++ Switch.shared

end CommandName

/-- A command with what it needs. -/
inductive Command where
  | summary (file : String)
  | gates (file : String)
  | status (file : String)
  | advance (file : String) (write : Bool)
  | back (file : String) (write : Bool)
  /-- Applies the mutation that a text stands for. -/
  | apply (file mutation : String) (write : Bool)
  /-- Lists the nodes that can be reached from a node, in the direction that a word names. -/
  | lineage (file node direction : String)
  | impact (file node : String)
  | validateResolution (file issue : String)
  | schema
  deriving DecidableEq, Repr

/-- The file that a command is about. -/
def Command.file? : Command → Option String
  | summary file => some file
  | gates file => some file
  | status file => some file
  | advance file _ => some file
  | back file _ => some file
  | apply file _ _ => some file
  | lineage file _ _ => some file
  | impact file _ => some file
  | validateResolution file _ => some file
  | schema => none

/-- A command and the options that every command takes. -/
structure Request where
  command : Command
  /-- The form of the answer, if one is asked for. -/
  format : Option OutputFormat := none
  quiet : Bool := false
  verbose : Bool := false
  deriving DecidableEq, Repr

end DataGovernance
