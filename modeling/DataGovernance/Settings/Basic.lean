import DataGovernance.Resolution
import DataGovernance.Table.Rendering

/-!
# Settings

The settings name the form in which answers are printed and the rules for resolutions. They are
valid when a description of at least one character is asked for and the form is known.

Key definitions: `Settings`, `InvalidSetting`, `Settings.check`.
-/

namespace DataGovernance

/-- The general settings. -/
structure GeneralSettings where
  /-- The word of the form in which answers are printed unless one is asked for. -/
  defaultFormat : String := "json"
  deriving DecidableEq, Repr

/-- The settings. -/
structure Settings where
  general : GeneralSettings := {}
  resolution : ResolutionRules := {}
  deriving DecidableEq, Repr

/-- A setting with which nothing can be done. -/
inductive InvalidSetting where
  | noDescription
  | unknownFormat (found : String)
  deriving DecidableEq, Repr

namespace InvalidSetting

/-- The path of the setting. -/
def field : InvalidSetting → String
  | noDescription => "resolution.min_description_chars"
  | unknownFormat _ => "general.default_format"

/-- Why the setting is invalid. -/
def reason : InvalidSetting → String
  | noDescription => "must be at least 1"
  | unknownFormat found =>
    "expected one of " ++ String.intercalate ", " (Vocabulary.words OutputFormat) ++ ", got '" ++
      found ++ "'"

/-- The wording of an invalid setting. -/
def message (e : InvalidSetting) : String :=
  "Invalid configuration value for '" ++ e.field ++ "': " ++ e.reason

end InvalidSetting

/-- Fails when a setting is invalid. -/
def Settings.check (s : Settings) : Except InvalidSetting Unit :=
  if s.resolution.minDescriptionChars = 0 then .error .noDescription
  else if s.general.defaultFormat ∈ Vocabulary.words OutputFormat then .ok ()
  else .error (.unknownFormat s.general.defaultFormat)

end DataGovernance
