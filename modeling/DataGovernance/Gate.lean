import DataGovernance.Json.Value
import DataGovernance.Snapshot.Basic

/-!
# Gates

A gate is a condition on the collections of a snapshot that has to hold before a step may be left.
Each gate looks at the entities in its scope and lists those that hold it closed, in their order; it
passes when there are none. So every gate passes over empty collections.

Key definitions: `Gate`, `Gate.guarding`, `Gate.blockingIds`, `GateReport`, `Gate.report`.
-/

namespace DataGovernance

/-- A condition for leaving a step. -/
inductive Gate where
  | inventoryReview
  | ownership
  | reconciliationComplete
  | triageComplete
  | resolutionComplete
  | blockingIssues
  | lineageLinking
  | lineageApproval
  deriving DecidableEq, Repr

/-- The gates in the order in which a cycle meets them. -/
instance : Vocabulary Gate where
  members :=
    [.inventoryReview, .ownership, .reconciliationComplete, .triageComplete, .resolutionComplete,
      .blockingIssues, .lineageLinking, .lineageApproval]
  word
    | .inventoryReview => "inventory_review"
    | .ownership => "ownership"
    | .reconciliationComplete => "reconciliation_complete"
    | .triageComplete => "triage_complete"
    | .resolutionComplete => "resolution_complete"
    | .blockingIssues => "blocking_issues"
    | .lineageLinking => "lineage_linking"
    | .lineageApproval => "lineage_approval"
  mem_members a := by cases a <;> decide
  nodup_words := by decide

/-- What a gate says about a snapshot. -/
structure GateReport where
  gate : Gate
  /-- The ids of the entities that hold the gate closed. -/
  blockingIds : List String
  deriving DecidableEq, Repr

namespace Gate

/-- The gate that has to pass before a step is left. -/
def guarding : Step → Option Gate
  | .inventoryApproval => some inventoryReview
  | .ownershipAssignment => some ownership
  | .reconciliation => some reconciliationComplete
  | .triage => some triageComplete
  | .resolution => some resolutionComplete
  | .verification => some blockingIssues
  | .businessTermLinking => some lineageLinking
  | .lineageApproval => some lineageApproval
  | .scoringReview | .pipelineScan | .impactAnalysis | .complete => none

/-- The issues, out of those to be resolved, that are not handed over yet. -/
def unresolved (scope : List Issue) : List Issue :=
  scope.filter fun i => i.status != .pendingVerification

/-- The critical issues that hold the cycle up. -/
def blockers (issues : List Issue) : List Issue := issues.filter Issue.isCriticalUnresolved

/-- The ids of the entities that hold a gate closed. -/
def blockingIds (s : Snapshot) : Gate → List String
  | inventoryReview => (s.elements.filter fun e => e.status == .pending).map Element.id
  | ownership => (s.elements.filter fun e => !e.hasOwner).map Element.id
  | reconciliationComplete => (s.reconciliation.filter Match.isPending).map Match.currentId
  | triageComplete => (s.issues.filter fun i => i.status == .opened).map Issue.id
  | resolutionComplete => (unresolved (s.issues.filter Issue.isInResolution)).map Issue.id
  | blockingIssues => (blockers s.issues).map Issue.id
  | lineageLinking => (s.lineage.nodes.filter fun n => !n.isLinkedOrDeferred).map Node.id
  | lineageApproval =>
    ((s.elements.filter fun e => e.status == .approved).filter fun e =>
      !e.hasCompleteLineage).map Element.id

/-- The report of a gate on a snapshot. -/
def report (gate : Gate) (s : Snapshot) : GateReport := ⟨gate, gate.blockingIds s⟩

/-- What a gate complains about. -/
def complaint : Gate → String
  | inventoryReview => "CDE(s) still pending review"
  | ownership => "CDE(s) still need an owner"
  | reconciliationComplete => "reconciliation match(es) still need an action"
  | triageComplete => "issue(s) still awaiting triage"
  | resolutionComplete => "issue(s) still being resolved"
  | blockingIssues => "critical issue(s) are blocking progression"
  | lineageLinking => "lineage node(s) have no business terms and no deferral"
  | lineageApproval => "approved CDE(s) lack complete lineage"

end Gate

namespace GateReport

/-- Whether the gate is open. -/
def passed (r : GateReport) : Bool := r.blockingIds.isEmpty

/-- The report in words. -/
def message (r : GateReport) : String :=
  if r.passed then "ready to continue"
  else String.ofList (Text.digits r.blockingIds.length) ++ " " ++ r.gate.complaint

/-- A report as JSON. -/
def toValue (r : GateReport) : Json.Value :=
  .object [
    ("gate", .str (Vocabulary.word r.gate)),
    ("passed", .bool r.passed),
    ("blocking_ids", .texts r.blockingIds),
    ("message", .str r.message)]

end GateReport

/-- The outcome of the form check of a resolution. -/
structure FormCheck where
  problems : List Problem
  deriving DecidableEq, Repr

namespace FormCheck

/-- Whether the resolution keeps the rules. -/
def passed (c : FormCheck) : Bool := c.problems.isEmpty

/-- The members of a form check as JSON. -/
def members (c : FormCheck) : List (String × Json.Value) :=
  [("passed", .bool c.passed), ("problems", .texts (c.problems.map Problem.message))]

end FormCheck

/-- Checks a resolution against the rules. -/
def ResolutionRules.check (rules : ResolutionRules) (r : Resolution) : FormCheck :=
  ⟨rules.problems r⟩

end DataGovernance
