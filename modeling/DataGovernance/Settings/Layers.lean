import DataGovernance.Settings.Basic
import DataGovernance.Settings.Environment
import DataGovernance.Toml.Reader

/-!
# Settings in layers

The settings come from four sources, each laid over the ones before: the defaults, the user's file,
the project's file and the environment. Names that mean nothing are passed over. A record may also
be a list of its fields in order.

Key definitions: `SettingsSource`, `Sources`, `Sources.layers`, `SettingsError`, `Settings.load`.
-/

namespace DataGovernance

/-- Where a setting comes from. -/
inductive SettingsSource where
  | defaults
  | file (path : String)
  | environment
  deriving DecidableEq, Repr

/-- The wording for a source. -/
def SettingsSource.message : SettingsSource → String
  | defaults => "defaults"
  | file path => path ++ " TOML file"
  | environment => "`" ++ Environment.settingPrefix ++ "` environment variable(s)"

/-- The wording for the path of a setting in a source. -/
def SettingsSource.key (path : List String) : SettingsSource → String
  | environment => String.intercalate "." (path.map String.toUpper)
  | _ => String.intercalate "." ("default" :: path)

/-- A setting that is not what it should be. -/
structure Misfit where
  path : List String
  found : Datum
  expected : String
  deriving Repr

/-- Whether a whole number has the wrong sign, which makes it a wrong value rather than something of
the wrong kind. -/
def Misfit.isNegative (m : Misfit) : Bool :=
  match m.found with
  | .signed i => i < 0 && m.expected == "usize"
  | _ => false

/-- The wording of a misfit. -/
def Misfit.message (m : Misfit) : String :=
  if m.isNegative then "invalid value " ++ m.found.message ++ ", expected " ++ m.expected
  else "invalid type: found " ++ m.found.message ++ ", expected " ++ m.expected

namespace Datum

/-! ### Records as data -/

/-- Reads a text. -/
def readText (path : List String) : Datum → Except Misfit String
  | text s => .ok s
  | d => .error ⟨path, d, "a string"⟩

/-- Reads a count. -/
def readCount (path : List String) (d : Datum) : Except Misfit Count :=
  match d with
  | unsigned n => if h : n < wordSize then .ok ⟨n, h⟩ else .error ⟨path, d, "usize"⟩
  | signed i =>
    if h : 0 ≤ i ∧ i.toNat < wordSize then .ok ⟨i.toNat, h.2⟩ else .error ⟨path, d, "usize"⟩
  | _ => .error ⟨path, d, "usize"⟩

/-- A named reader that puts what it reads into a record. -/
abbrev Slot (ρ : Type) := String × (List String → Datum → ρ → Except Misfit ρ)

/-- The slot of a field. -/
def slot {ρ α : Type} (name : String) (read : List String → Datum → Except Misfit α)
    (set : α → ρ → ρ) : Slot ρ :=
  (name, fun path d r => (read path d).map fun a => set a r)

variable {ρ : Type}

/-- Reads the entries of a table into the slots of their names. -/
def readEntries (slots : List (Slot ρ)) (path : List String) :
    List (String × Datum) → ρ → Except Misfit ρ
  | [], r => .ok r
  | (name, d) :: rest, r =>
    match slots.lookup name with
    | some read => do readEntries slots path rest (← read (path ++ [name]) d r)
    | none => readEntries slots path rest r

/-- Reads the items of a list into the slots in order; further ones are passed over. -/
def readItems (path : List String) : Nat → List (Slot ρ) → List Datum → ρ → Except Misfit ρ
  | i, (_, read) :: slots, d :: rest, r => do
    readItems path (i + 1) slots rest
      (← read (path ++ [String.ofList (Text.digits i)]) d r)
  | _, _, _, r => .ok r

/-- Reads a record over its defaults. -/
def readRecord (title : String) (slots : List (Slot ρ)) (blank : ρ) (path : List String) :
    Datum → Except Misfit ρ
  | table entries => readEntries slots path entries blank
  | list items => readItems path 0 slots items blank
  | d => .error ⟨path, d, title⟩

/-- Reads the general settings. -/
def readGeneral : List String → Datum → Except Misfit GeneralSettings :=
  readRecord "struct GeneralConfig"
    [slot "default_format" readText fun v r => { r with defaultFormat := v }] {}

/-- Reads the rules for resolutions. -/
def readRules : List String → Datum → Except Misfit ResolutionRules :=
  readRecord "struct ResolutionRules"
    [slot "min_description_chars" readCount fun v r => { r with minDescriptionChars := v },
      slot "min_evidence" readCount fun v r => { r with minEvidence := v }] {}

/-- Reads the settings. -/
def readSettings : Datum → Except Misfit Settings :=
  readRecord "struct StewardConfig"
    [slot "general" readGeneral fun v r => { r with general := v },
      slot "resolution" readRules fun v r => { r with resolution := v }] {} []

/-- The default settings as data. -/
def defaultSettings : Datum :=
  let s : Settings := {}
  table [
    ("general", table [("default_format", text s.general.defaultFormat)]),
    ("resolution", table [
      ("min_description_chars", unsigned s.resolution.minDescriptionChars.val),
      ("min_evidence", unsigned s.resolution.minEvidence.val)])]

end Datum

/-- What the settings are made from. A file has a path and a text, or says why it has none. -/
structure Sources where
  files : List (String × Except String String) := []
  environment : Environment := []

/-- Why the settings cannot be loaded. -/
inductive SettingsError where
  /-- Files that cannot be read, each with the wording of what is wrong; the last one first. -/
  | unreadable (files : List (String × String))
  | misfit (source : SettingsSource) (cause : Misfit)
  | invalid (cause : InvalidSetting)
  deriving Repr

namespace SettingsError

/-- The wording for what is wrong with a source. -/
def sourceMessage : SettingsError → String
  | unreadable files =>
    String.intercalate "\n" (files.map fun (path, what) =>
      what ++ " in " ++ (SettingsSource.file path).message)
  | misfit source cause =>
    cause.message ++
      (if cause.path = [] then "" else " for key " ++ Text.quote (source.key cause.path)) ++
      " in " ++ source.message
  | invalid cause => cause.message

/-- The wording of a settings error: the error, then what caused it. -/
def messages : SettingsError → List String
  | invalid cause => [cause.message]
  | e => ["Configuration error: " ++ e.sourceMessage, e.sourceMessage]

end SettingsError

namespace Sources

/-- The text of a file as data, or the wording of what is wrong with it. -/
def readFile : Except String String → Except String Datum
  | .error what => .error what
  | .ok text => Toml.read text

/-- The files that are wrong, the last one first. -/
def faults (s : Sources) : List (String × String) :=
  (s.files.filterMap fun (path, file) =>
    match readFile file with
    | .error what => some (path, what)
    | .ok _ => none).reverse

/-- The sources and their data, the lowest one first. -/
def layers (s : Sources) : List (SettingsSource × Datum) :=
  (.defaults, Datum.defaultSettings) ::
    (s.files.filterMap fun (path, file) =>
      match readFile file with
      | .ok d => some (.file path, d)
      | .error _ => none) ++
    [(.environment, .ofEnvironment s.environment)]

/-- All layers laid over each other. -/
def merged (s : Sources) : Datum :=
  s.layers.foldl (fun d (_, layer) => d.overlay layer) (.table [])

/-- The source that the datum at a path comes from: the uppermost one that has it. -/
def sourceOf (s : Sources) (path : List String) : SettingsSource :=
  match s.layers.reverse.find? fun (_, d) => (d.get? path).isSome with
  | some (source, _) => source
  | none => .defaults

end Sources

/-- Loads the settings. -/
def Settings.load (s : Sources) : Except SettingsError Settings :=
  match s.faults with
  | [] =>
    match s.merged.readSettings with
    | .error m => .error (.misfit (s.sourceOf m.path) m)
    | .ok settings =>
      match settings.check with
      | .error e => .error (.invalid e)
      | .ok _ => .ok settings
  | files => .error (.unreadable files)

end DataGovernance
