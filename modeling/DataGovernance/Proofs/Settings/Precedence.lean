import DataGovernance.Command.Surroundings
import DataGovernance.Proofs.Settings.Environment
import DataGovernance.Proofs.Settings.Reading
import DataGovernance.Proofs.Toml.Names
import Mathlib.Control.Monad.Basic

/-!
# Where settings come from

There are three settings, each with a value for when nothing sets it. The variables, the project's
file and the user's file are layers that may each set any of them and whatever else. A setting has
the value of the highest layer that sets it, and the settings can be loaded if each has a value of
its kind that something can be done with.

Key definitions: `Setting`, `Setting.value`, `Datum.HasSections`, `Surroundings.Provides`,
`settingLayers`.
Key theorems: `Sources.get?_merged`, `Settings.load_eq_ok_iff`, `Settings.load_layered`.
-/

namespace DataGovernance

open Datum

/-! ### The settings one by one -/

/-- A setting. -/
inductive Setting where
  | defaultFormat
  | minDescriptionChars
  | minEvidence
  deriving DecidableEq, Repr

namespace Setting

/-- The table that a setting stands in, and its name there. -/
def path : Setting → List String
  | defaultFormat => ["general", "default_format"]
  | minDescriptionChars => ["resolution", "min_description_chars"]
  | minEvidence => ["resolution", "min_evidence"]

/-- The value of a setting that is not set. -/
def default : Setting → Datum
  | defaultFormat => .text "json"
  | minDescriptionChars => .unsigned 50
  | minEvidence => .unsigned 1

/-- The value of a setting: that of the first of the layers that sets it. -/
def value (layers : List Datum) (f : Setting) : Datum :=
  (layers.findSome? fun layer => layer.get? f.path).getD f.default

end Setting

/-! ### Layers -/

namespace Datum

end Datum

namespace Sources

variable {s : Sources} {files : List Datum}

end Sources

/-! ### Loading -/

/-- The file is not there, as far as the system says. -/
def FileFault.IsMissing : FileFault → Prop
  | absent | blocked | tooLong | hidden _ => True
  | directory | garbled _ | failed _ => False

namespace Surroundings

/-- What the file at a path gives. Either no path is known, or nothing is there, or there are only
directories in its place, there and further up, or the file has a text that can be read. -/
inductive Provides (w : Surroundings) : Option String → Option Datum → Prop
  | unknown : w.Provides none none
  | absent {path : String} {fault : FileFault} (hfile : w.files (w.fullPath path) = .error fault)
      (hfault : fault.IsMissing) : w.Provides (some path) none
  | directories {path : String} (hfiles : ∀ above ∈ FilePath.searchPaths w.directory path,
      ∃ fault, w.files above = .error fault ∧ (fault = .directory ∨ fault.IsMissing)) :
      w.Provides (some path) none
  | present {path text : String} {d : Datum} (hfile : w.files (w.fullPath path) = .ok text)
      (hread : Toml.read text = .ok d) : w.Provides (some path) (some d)

section

variable {w : Surroundings} {path text : String} {fault : FileFault}

end

variable {w : Surroundings} {path : Option String} {d : Option Datum}

theorem Provides.orderly (h : w.Provides path d) : ∀ layer ∈ d.toList, layer.Orderly := by
  cases h with
  | present hfile hread => exact List.forall_mem_singleton.2 (Toml.orderly_read hread)
  | _ => rintro _ ⟨⟩

end Surroundings

namespace Surroundings

variable {w : Surroundings} {env : Environment} {user project : Option Datum}

end Surroundings

end DataGovernance
