import DataGovernance.Cycle.Step
import DataGovernance.Element
import DataGovernance.Issue
import DataGovernance.Reconciliation
import DataGovernance.Resolution
import DataGovernance.Lineage.Basic

/-!
# Snapshots

A snapshot is the whole state of a cycle: its step, the four collections that its operations change,
and a version that grows with every change.

Key definitions: `Snapshot`.
-/

namespace DataGovernance

/-- How far a cycle has come. -/
structure Progress where
  step : Step := .scoringReview
  deriving DecidableEq, Repr

/-- The whole state of a cycle. -/
structure Snapshot where
  cycleId : String := ""
  version : Count := 0
  progress : Progress := {}
  elements : List Element := []
  issues : List Issue := []
  reconciliation : List Match := []
  lineage : Lineage := {}
  deriving DecidableEq, Repr

end DataGovernance
