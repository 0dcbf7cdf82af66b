import DataGovernance.Command.Help
import DataGovernance.Command.Surroundings
import DataGovernance.Mutation.Format
import DataGovernance.Session.Report
import DataGovernance.Snapshot.Schema

/-!
# Running commands

A command loads the settings, opens a session on its file, shows an answer in the form asked for,
and may write the snapshot back to the file. When something fails, the causes are shown in one line
and nothing is written.

Key definitions: `CommandError`, `Answer`, `Surroundings.answer`, `Outcome`, `Surroundings.run`.
-/

namespace DataGovernance

open Json

/-! ### Errors -/

/-- Why a command fails. -/
inductive CommandError where
  | settings (cause : SettingsError)
  | unknownDirection (found : String) (cause : Vocabulary.UnknownWord)
  | unreadable (file : String) (cause : FileFault)
  | unparsable (file : String) (cause : Record.ReadError)
  | unusable (file : String) (cause : SessionError)
  | refused (cause : SessionError)
  | invalidMutation (cause : Record.ReadError)
  | rejected (kind : MutationKind) (cause : SessionError)
  | untraceable (direction : Direction) (node : String) (cause : LineageError)
  | noImpact (node : String) (cause : LineageError)
  deriving Repr

/-- The wording of a session error, with what it consists of before it and what caused it behind. -/
def SessionError.messages (e : SessionError) : List String :=
  match e with
  | blocked _ report =>
    ["blocked by " ++ String.intercalate ", " report.blockingIds, e.message]
  | lineage cause => [e.message, cause.message]
  | _ => [e.message]

namespace CommandError

/-- The wording of an error, from the outermost to the innermost cause. -/
def messages : CommandError → List String
  | settings cause => "failed to load steward configuration" :: cause.messages
  | unknownDirection found cause => [lenientMessage "direction" found cause]
  | unreadable file cause => ["failed to read snapshot " ++ file, cause.message]
  | unparsable file cause => ["failed to parse snapshot " ++ file, cause.message]
  | unusable file cause => ("snapshot " ++ file ++ " is not usable") :: cause.messages
  | refused cause => cause.messages
  | invalidMutation cause => ["invalid mutation JSON", cause.message]
  | rejected kind cause => (Vocabulary.word kind ++ " rejected") :: cause.messages
  | untraceable direction node cause =>
    ["cannot trace " ++ Vocabulary.word direction ++ " from '" ++ node ++ "'", cause.message]
  | noImpact node cause =>
    ("cannot preview impact of '" ++ node ++ "'") :: (SessionError.lineage cause).messages

/-- An error in one line. -/
def line (e : CommandError) : String :=
  programName ++ " error: " ++ String.intercalate ": " e.messages ++ "\n"

end CommandError

/-! ### Answers -/

/-- What a command answers. -/
structure Answer where
  value : Value
  /-- The snapshot that is to be written to the file. -/
  saved : Option Snapshot := none

namespace Answer

/-- The answer to a step, from the session before it to the one after it. -/
def ofStep (before after : Session) (write : Bool) : Answer where
  value := .object [
    ("from", wordValue before.step),
    ("to", wordValue after.step),
    ("phase", wordValue after.step.phase),
    ("version", .nat after.version.val),
    ("written", .bool write)]
  saved := if write then some after.snapshot else none

/-- The answer to a mutation that led to a session. -/
def ofMutation (kind : MutationKind) (after : Session) (write : Bool) : Answer where
  value := .object [
    ("mutation", wordValue kind),
    ("version", .nat after.version.val),
    ("written", .bool write)]
  saved := if write then some after.snapshot else none

/-- The answer to a question for the nodes that can be reached. -/
def ofReachable (node : String) (direction : Direction) (nodes : List String) : Answer where
  value := .object [
    ("node", .str node),
    ("direction", wordValue direction),
    ("nodes", .texts nodes)]

/-- The answer to a check of a resolution. -/
def ofCheck (issue : String) (rules : ResolutionRules) (check : FormCheck) : Answer where
  value := .object ([("issue_id", .str issue)] ++ check.members ++ [
    ("min_description_chars", .nat rules.minDescriptionChars.val),
    ("min_evidence", .nat rules.minEvidence.val)])

end Answer

namespace Surroundings

/-- Opens a session on a file. -/
def openSession (w : Surroundings) (rules : ResolutionRules) (file : String) :
    Except CommandError Session := do
  let text ← (w.files file).mapError (.unreadable file)
  let snapshot ← (Snapshot.ofText text).mapError (.unparsable file)
  (Session.new snapshot rules).mapError (.unusable file)

/-- The answer to a command under rules for resolutions. -/
def answer (w : Surroundings) (rules : ResolutionRules) : Command → Except CommandError Answer
  | .summary file => do
    let σ ← w.openSession rules file
    return { value := σ.dashboard.toValue }
  | .gates file => do
    let σ ← w.openSession rules file
    return { value := .list (σ.gateReports.map GateReport.toValue) }
  | .status file => do
    let σ ← w.openSession rules file
    return { value := σ.status.toValue }
  | .advance file write => do
    let σ ← w.openSession rules file
    let τ ← σ.advance.mapError .refused
    return .ofStep σ τ write
  | .back file write => do
    let σ ← w.openSession rules file
    let τ ← σ.back.mapError .refused
    return .ofStep σ τ write
  | .apply file mutation write => do
    let σ ← w.openSession rules file
    let m ← (Mutation.ofText mutation).mapError .invalidMutation
    let τ ← (σ.apply m w.now).mapError (.rejected m.kind)
    return .ofMutation m.kind τ write
  | .lineage file node word => do
    let direction ← (ofLenientWord word).mapError (.unknownDirection word)
    let σ ← w.openSession rules file
    let graph ← σ.graph.mapError fun e => .refused (.lineage e)
    let nodes ← (graph.reachable node direction).mapError (.untraceable direction node)
    return .ofReachable node direction nodes
  | .impact file node => do
    let σ ← w.openSession rules file
    let impact ← (σ.impact node).mapError (.noImpact node)
    return { value := impact.toValue }
  | .validateResolution file issue => do
    let σ ← w.openSession rules file
    let check ← (σ.checkResolution issue).mapError .refused
    return .ofCheck issue rules check
  | .schema => return { value := Snapshot.schema }

end Surroundings

/-! ### Outcomes -/

/-- What comes of a run. -/
structure Outcome where
  /-- Zero when the run succeeds, one when the command fails, two when the arguments are wrong. -/
  exitCode : Nat
  output : String := ""
  errors : String := ""
  /-- The path and the text of a file that is to be written. -/
  written : Option (String × String) := none
  deriving DecidableEq, Repr

namespace Outcome

/-- The outcome of an answer to a request, printed in a form. -/
def ofAnswer (r : Request) (style : TableStyle) (format : OutputFormat) (a : Answer) : Outcome where
  exitCode := 0
  output := format.render style a.value ++ "\n"
  written := do
    let snapshot ← a.saved
    let file ← r.command.file?
    return (file, snapshot.toText ++ "\n")

end Outcome

/-- The form in which answers are printed unless another one is asked for. -/
def Settings.format (s : Settings) : OutputFormat :=
  (Vocabulary.ofWord? s.general.defaultFormat).getD .json

namespace Surroundings

/-- The form of the answer to a request. -/
def formatFor (r : Request) (settings : Settings) : OutputFormat :=
  r.format.getD settings.format

/-- Runs a request. -/
def perform (w : Surroundings) (r : Request) : Except CommandError Outcome := do
  let settings ← (Settings.load w.sources).mapError .settings
  let answer ← w.answer settings.resolution r.command
  return .ofAnswer r (w.tableStyle r.quiet) (formatFor r settings) answer

/-- Runs the program on its arguments. -/
def run (w : Surroundings) (args : List String) : Outcome :=
  match Invocation.ofArguments args with
  | .run r =>
    match w.perform r with
    | .ok outcome => outcome
    | .error e => { exitCode := 1, errors := e.line }
  | .help topic => { exitCode := 0, output := topic.text }
  | .version => { exitCode := 0, output := versionText }
  | .misuse =>
    { exitCode := 2, errors := "error: invalid arguments\n\n" ++
        "For more information, try '--" ++ Vocabulary.word Switch.help ++ "'.\n" }

end Surroundings

end DataGovernance
