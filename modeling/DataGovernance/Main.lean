import DataGovernance.Command.Run
import Std.Time.DateTime.Timestamp

/-!
# The program

Gathers the surroundings of the program, runs it and shows what comes of it.
-/

namespace DataGovernance

/-- The number of an error of the system, which may be given with a minus sign. -/
def errorNumber (code : UInt32) : UInt32 := min code (0 - code)

/-- Why a file could not be read. -/
def faultOf : IO.Error → FileFault
  | .noFileOrDirectory .. => .absent
  | .noSuchThing .. => .absent
  | .inappropriateType _ code what =>
    if errorNumber code = 21 then .directory
    else if errorNumber code = 20 then .blocked
    else .failed what
  | .invalidArgument _ code what => if errorNumber code = 36 then .tooLong else .hidden what
  | .permissionDenied .. => .hidden "Permission denied (os error 13)"
  | e => .failed e.toString

/-- The text of a file, or why it could not be read. -/
def tryFile (path : String) : IO (Except FileFault String) := do
  try
    let bytes ← IO.FS.readBinFile path
    return fileText bytes.toList
  catch e => return .error (faultOf e)

/-- Reads a file. -/
def readFile (path : String) : IO (Except FileFault String) := do
  match ← tryFile path with
  | .error (.hidden what) =>
    -- a file that must not be read is no directory, and the system says so if it can be found
    match ← tryFile (path ++ "/.") with
    | .error .blocked => return .error (.failed what)
    | _ => return .error (.hidden what)
  | content => return content

/-- The variables of the program's own process. -/
def readEnvironment : IO Environment := do
  match ← readFile "/proc/self/environ" with
  | .error _ => return []
  | .ok text =>
    return (text.splitOn "\x00").filterMap fun entry =>
      match entry.toList.span (· ≠ '=') with
      | (name, '=' :: rest) => some (String.ofList name, String.ofList rest)
      | _ => none

/-- The number behind a title in the lines of a text about the program's own process. -/
def statusNumber? (text title : String) : Option String := do
  let line ← (text.splitOn "\n").find? fun line => line.startsWith title
  ((line.splitOn "\t").drop 1).head?

/-- The directory of a user in a list of accounts, if it is not empty. -/
def accountHome? (accounts user : String) : Option String :=
  (accounts.splitOn "\n").findSome? fun line =>
    match line.splitOn ":" with
    | _ :: _ :: number :: _ :: _ :: home :: _ =>
      if number = user ∧ home ≠ "" then some home else none
    | _ => none

/-- The directory that the system has for the user. -/
def readHome : IO (Option String) := do
  match ← readFile "/proc/self/status", ← readFile "/etc/passwd" with
  | .ok status, .ok accounts => return (statusNumber? status "Uid:").bind (accountHome? accounts)
  | _, _ => return none

/-- Surroundings with the files at some paths. -/
def withFiles (w : Surroundings) (paths : List String) : IO Surroundings := do
  let contents ← paths.mapM fun path => return (path, ← readFile path)
  return { w with files := fun path => (contents.lookup path).getD (w.files path) }

/-- Gathers the surroundings that a run on the given arguments can depend on. -/
def gatherSurroundings (args : List String) : IO Surroundings := do
  let nanos := (← Std.Time.Timestamp.now).toNanosecondsSinceUnixEpoch.val.toNat
  let bare : Surroundings := {
    files := fun _ => .error .absent
    environment := ← readEnvironment
    home := ← readHome
    directory := (← IO.currentDir).toString
    now := (Time.Timestamp.afterEpoch? nanos).getD .epoch
    onTerminal := ← (← IO.getStdout).isTty }
  -- the variables can tell where the user's file of settings is
  let w ← withFiles bare
    (bare.variablePaths ++ FilePath.searchPaths bare.directory Surroundings.variablesName)
  let file := match Invocation.ofArguments args with
    | .run r => r.command.file?
    | _ => none
  let settings := w.settingsPaths w.fullEnvironment
  withFiles w (settings.flatMap (FilePath.searchPaths w.directory) ++ file.toList)

/-- Puts a file in the place of another one at once, so that it is never seen half written. -/
def replaceFile (path text : String) : IO Unit := do
  let draft := path ++ ".draft"
  IO.FS.writeFile draft text
  IO.FS.rename draft path

end DataGovernance

open DataGovernance in
/-- Runs the program. -/
def main (args : List String) : IO UInt32 := do
  let outcome := (← gatherSurroundings args).run args
  try
    match outcome.written with
    | some (path, text) => replaceFile path text
    | none => pure ()
  catch e =>
    IO.eprintln (programName ++ " error: failed to write snapshot: " ++ e.toString)
    return 1
  IO.print outcome.output
  IO.eprint outcome.errors
  return outcome.exitCode.toUInt32
