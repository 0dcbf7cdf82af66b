import DataGovernance.Command.Arguments

/-!
# Help

The help on a command says what it does and how it is written, and lists its values and options. The
overview lists the commands instead.

Key definitions: `HelpTopic.text`, `versionText`.
-/

namespace DataGovernance

/-- The name of the program. -/
def programName : String := "stw"

/-- The answer to the question for the version. -/
def versionText : String := programName ++ " 0.1.0\n"

/-- What a command does. -/
def CommandName.about : CommandName → String
  | summary => "Dashboard summaries and gate reports for a cycle"
  | gates => "Evaluate every phase gate"
  | status => "Current phase and step, and whether its exit gate passes"
  | advance => "Advance to the next step if the current gate passes"
  | back => "Return to the previous step"
  | apply => "Apply a mutation given as tagged JSON"
  | lineage => "Nodes reachable from a lineage node"
  | impact => "Impact preview for changing a lineage node"
  | validateResolution => "Check an issue's resolution against the form rules"
  | schema => "Print the JSON schema of the snapshot file format"

/-- The sign for a value. -/
def ValueName.sign : ValueName → String
  | file => "<FILE>"
  | mutation => "<MUTATION>"
  | node => "<NODE>"
  | issue => "<ISSUE>"

/-- What a value is. -/
def ValueName.about : ValueName → String
  | file => "Workflow snapshot JSON file"
  | mutation => "Mutation JSON, e.g. '\x7b\"type\":\"approve_all_pending\"\x7d'"
  | node => "Lineage node id"
  | issue => "Issue id"

namespace Switch

/-- How an option is written. -/
def sign (s : Switch) : String :=
  (match s.letter? with
    | some c => String.ofList ['-', c, ',', ' ']
    | none => "    ") ++
  "--" ++ Vocabulary.word s ++
  (if s.takesValue then " <" ++ (Vocabulary.word s).toUpper ++ ">" else "")

/-- What an option does. -/
def about : Switch → String
  | write => "Persist the updated snapshot back to the file"
  | direction => "Traversal direction: downstream or upstream [default: " ++ defaultDirection ++ "]"
  | format =>
    let words := String.intercalate ", " (Vocabulary.words OutputFormat)
    "Output format: " ++ words ++ " (defaults to general.default_format) [possible values: " ++
      words ++ "]"
  | quiet => "Quiet mode (errors only)"
  | verbose => "Verbose mode (debug logging)"
  | help => "Print help"
  | version => "Print version"

end Switch

namespace HelpTopic

/-- Lines of signs and what they stand for, in two columns below a title. -/
def columns (title : String) (rows : List (String × String)) : List String :=
  let width := (rows.map fun (sign, _) => sign.length).foldl max 0
  title :: rows.map fun (sign, what) =>
    "  " ++ sign ++ String.ofList (List.replicate (width - sign.length + 2) ' ') ++ what

/-- A list of options. -/
def options (switches : List Switch) : List String :=
  columns "Options:" (switches.map fun s => (s.sign, s.about))

/-- What asking for help does. -/
def aboutHelping : String := "Print this message or the help of the given subcommand(s)"

/-- The paragraphs of a help text. -/
def paragraphs : HelpTopic → List (List String)
  | overview => [
    ["Steward - data governance workflow gates and lineage"],
    ["Usage: " ++ programName ++ " [OPTIONS] <COMMAND>"],
    columns "Commands:"
      (((Vocabulary.members : List CommandName).map fun name =>
          (Vocabulary.word name, name.about)) ++ [(helpWord, aboutHelping)]),
    options Level.front.switches]
  | command name => [
    [name.about],
    [String.intercalate " "
      (["Usage:", programName, Vocabulary.word name, "[OPTIONS]"] ++
        name.values.map ValueName.sign)]] ++
    (if name.values = [] then []
      else [columns "Arguments:" (name.values.map fun v => (v.sign, v.about))]) ++
    [options name.switches]
  | helping => [
    [aboutHelping],
    ["Usage: " ++ programName ++ " " ++ helpWord ++ " [COMMAND]..."],
    columns "Arguments:" [("[COMMAND]...", "Print help for the subcommand(s)")]]

/-- The help on a topic. -/
def text (t : HelpTopic) : String :=
  String.intercalate "\n\n" (t.paragraphs.map (String.intercalate "\n")) ++ "\n"

end HelpTopic

end DataGovernance
