import DataGovernance.Vocabulary

/-!
# Reconciliation with an external inventory

A match compares an element of the inventory with an external one. An action is suggested for it,
and it is decided once an action has been taken.

Key definitions: `MatchType`, `MatchAction`, `Match`.
-/

namespace DataGovernance

/-- How well two inventories agree on an element. -/
inductive MatchType where
  | exactly
  | partly
  | new
  | missing
  deriving DecidableEq, Repr

instance : Vocabulary MatchType where
  members := [.exactly, .partly, .new, .missing]
  word
    | .exactly => "exact"
    | .partly => "partial"
    | .new => "new"
    | .missing => "missing"
  mem_members a := by cases a <;> decide
  nodup_words := by decide

/-- What is done about a match. -/
inductive MatchAction where
  | accept
  | reject
  | addToInventory
  | retire
  | keep
  deriving DecidableEq, Repr

instance : Vocabulary MatchAction where
  members := [.accept, .reject, .addToInventory, .retire, .keep]
  word
    | .accept => "accept"
    | .reject => "reject"
    | .addToInventory => "add_to_inventory"
    | .retire => "retire"
    | .keep => "keep"
  mem_members a := by cases a <;> decide
  nodup_words := by decide

/-- An element of the inventory beside its external counterpart. -/
structure Match where
  currentId : String
  externalId : Option String := none
  matchType : MatchType
  suggestedAction : Option MatchAction := none
  actionTaken : Option MatchAction := none
  deriving DecidableEq, Repr

/-- Whether no action has been taken yet. -/
def Match.isPending (m : Match) : Bool := m.actionTaken.isNone

end DataGovernance
