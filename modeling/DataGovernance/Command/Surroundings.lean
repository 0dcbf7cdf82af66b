import DataGovernance.Command.FilePath
import DataGovernance.Settings.Layers
import DataGovernance.Settings.VariableFile
import DataGovernance.Text.Bytes
import DataGovernance.Time.Timestamp

/-!
# The surroundings of a command

A command runs in a directory among files, with variables and at a time. The settings come from the
user's file and the project's file, and from the variables, to which a file of variables adds those
that are not set.

The user's file is below the directory that `XDG_CONFIG_HOME` names from the root, or else below
`.config` in the user's own directory, which is the one that `HOME` names or else the one that the
system has for the user. The file of variables is looked for in the directory that
`CARGO_MANIFEST_DIR` names, if it does, and in the next two above that one; only if there is none in
these it is looked for in the directory of the command and in all directories above that one.

A file of settings is read if there is something at its path. When that is a directory, a path that
does not start at the root is looked for in the directories above as well. A file that is there but
cannot be read is a source that is wrong, not one that is missing.

Key definitions: `FileFault`, `fileText`, `Surroundings`, `Surroundings.variablesPath?`,
`Surroundings.foundSettings?`, `Surroundings.sources`, `Surroundings.tableStyle`.
-/

namespace DataGovernance

/-- Why a file has no text. -/
inductive FileFault where
  | absent
  | directory
  /-- Something on the path is no directory. -/
  | blocked
  /-- A name on the path, or the path, is longer than files can be named. -/
  | tooLong
  /-- The text is no UTF-8. Its lines before the first one that is none are known. -/
  | garbled (lines : String)
  /-- The system does not say whether the file is there, for this reason in its words. -/
  | hidden (what : String)
  /-- The file is there, but reading it fails, in the words of the system. -/
  | failed (what : String)
  deriving DecidableEq, Repr

/-- The wording for a file that has no text. -/
def FileFault.message : FileFault → String
  | absent => "No such file or directory (os error 2)"
  | directory => "Is a directory (os error 21)"
  | blocked => "Not a directory (os error 20)"
  | tooLong => "File name too long (os error 36)"
  | garbled _ => "stream did not contain valid UTF-8"
  | hidden what => what
  | failed what => what

/-- The text of a file with the given bytes. -/
def fileText (bytes : List UInt8) : Except FileFault String :=
  match Text.ofBytes? bytes with
  | some text => .ok text
  | none =>
    let lines := (Text.cutBehind 10 bytes).map Text.ofBytes?
    .error (.garbled (String.join ((lines.takeWhile Option.isSome).filterMap id)))

/-- What a command runs in. -/
structure Surroundings where
  /-- The texts of the files by their paths. -/
  files : String → Except FileFault String
  environment : Environment := []
  /-- The directory that the system has for the user, if any. -/
  home : Option String := none
  /-- The path, from the root, of the directory that relative paths are taken in. -/
  directory : String := "/"
  now : Time.Timestamp := .epoch
  /-- Whether answers are shown on a terminal. -/
  onTerminal : Bool := false

namespace Surroundings

/-! ### Files -/

/-- Whether there is something at a path. -/
def isTaken (w : Surroundings) (path : String) : Bool :=
  match w.files path with
  | .error .absent => false
  | .error .blocked => false
  | .error .tooLong => false
  | .error (.hidden _) => false
  | _ => true

/-- Whether there is a file at a path, be it one that cannot be read. -/
def isFile (w : Surroundings) (path : String) : Bool :=
  match w.files path with
  | .error .directory => false
  | _ => w.isTaken path

/-- A path from the root. -/
def fullPath (w : Surroundings) (path : String) : String := FilePath.join w.directory path

/-! ### Variables -/

/-- The name of a file of variables. -/
def variablesName : String := ".env"

/-- The paths at which the file of variables is looked for before the directory of the command. -/
def variablePaths (w : Surroundings) : List String :=
  match w.environment.lookup "CARGO_MANIFEST_DIR" with
  | none => []
  | some path =>
    (FilePath.upwards 3 (FilePath.names path)).map fun names =>
      FilePath.ofNames (FilePath.isAbsolute path) (names ++ [variablesName])

/-- Whether the search for the file of variables goes on above a path: it does when there is nothing
or a directory, and anything else ends it. -/
def goesOn (w : Surroundings) (path : String) : Bool :=
  match w.files path with
  | .error .absent => true
  | .error .directory => true
  | _ => false

/-- The path at which the search for the file of variables ends, if it does. -/
def variablesPath? (w : Surroundings) : Option String :=
  (w.variablePaths.find? w.isTaken).or
    ((FilePath.searchPaths w.directory variablesName).find? fun path => !w.goesOn path)

/-- The environment with the variables of the file of variables. -/
def fullEnvironment (w : Surroundings) : Environment :=
  match w.variablesPath?.map w.files with
  | some (.ok text) => w.environment.withFile text
  | some (.error (.garbled lines)) => w.environment.withFile lines
  | _ => w.environment

/-! ### Settings -/

/-- The path of the project's file of settings. -/
def projectSettings : String := ".steward/config.toml"

/-- The path of the user's file of settings, if one is known. -/
def userSettings? (w : Surroundings) (env : Environment) : Option String :=
  let home := ((env.lookup "HOME").filter (· ≠ "")).or w.home
  let own := home.map fun home => FilePath.join home ".config"
  let base := ((env.lookup "XDG_CONFIG_HOME").filter FilePath.isAbsolute).or own
  base.map fun base => FilePath.join base "steward/config.toml"

/-- The paths of the files of settings, the lowest one first. -/
def settingsPaths (w : Surroundings) (env : Environment) : List String :=
  (w.userSettings? env).toList ++ [projectSettings]

/-- A path as messages show it: from the directory of the command if that takes fewer names than the
path from the root does, which counts the root. -/
def shownPath (w : Surroundings) (path : String) : String :=
  let full := w.fullPath path
  let way := FilePath.way (FilePath.names w.directory) (FilePath.names full)
  if way.length < (FilePath.names full).length + 1 then FilePath.ofNames false way else full

/-- The path, from the root, of the file of settings that a path stands for. -/
def foundSettings? (w : Surroundings) (path : String) : Option String :=
  if w.isTaken (w.fullPath path) then
    (FilePath.searchPaths w.directory path).find? w.isFile
  else none

/-- A file of settings, if there is one. -/
def settingsFile (w : Surroundings) (path : String) : List (String × Except String String) :=
  (w.foundSettings? path).toList.map fun found =>
    (w.shownPath found, (w.files found).mapError fun fault => fault.message ++ "\n")

/-- The sources of the settings, where the variables are as given. -/
def sourcesIn (w : Surroundings) (env : Environment) : Sources where
  files := (w.settingsPaths env).flatMap w.settingsFile
  environment := env

/-- The sources of the settings of a command. -/
def sources (w : Surroundings) : Sources := w.sourcesIn w.fullEnvironment

/-! ### Tables -/

/-- The least width of a table that can be asked for. -/
def leastWidth : Nat := 40

/-- The number that digits stand for, which a plus sign may precede, if it has 64 bits. -/
def width? (s : String) : Option Nat :=
  let ds := match s.toList with
    | '+' :: ds => ds
    | ds => ds
  if ds ≠ [] ∧ ds.all Char.isDigit ∧ Text.value ds < wordSize then some (Text.value ds) else none

/-- How tables are printed. -/
def tableStyle (w : Surroundings) (quiet : Bool) : TableStyle where
  limit := ((w.fullEnvironment.lookup "COLUMNS").bind width?).filter (leastWidth ≤ ·)
  coloured := w.onTerminal && !quiet && (w.fullEnvironment.lookup "NO_COLOR").isNone

end Surroundings

end DataGovernance
