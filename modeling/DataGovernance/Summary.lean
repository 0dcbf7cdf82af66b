import DataGovernance.Count
import DataGovernance.Json.Value
import DataGovernance.Rounding
import DataGovernance.Snapshot.Basic

/-!
# Summaries of the collections

Counts and rounded shares over the elements, issues, matches and nodes of a cycle, for its
dashboard.

Key definitions: `averageScore`, `averageResolutionDays`, `ElementSummary`, `IssueSummary`,
`MatchSummary`, `LineageSummary`.
-/

namespace DataGovernance

open Json

/-! ### Elements -/

/-- The mean score of elements. -/
def averageScore (elements : List Element) : Nat :=
  figure (total (elements.map fun e => e.overallScore.val)) elements.length

/-- A summary of elements. -/
structure ElementSummary where
  total : Nat
  pending : Nat
  approved : Nat
  rejected : Nat
  highCriticality : Nat
  owned : Nat
  averageScore : Nat
  ownershipCoverage : Nat
  lineageCoverage : Nat
  deriving DecidableEq, Repr

namespace ElementSummary

/-- The summary of a list of elements. -/
def ofList (elements : List Element) : ElementSummary where
  total := elements.length
  pending := elements.countP fun e => e.status == .pending
  approved := elements.countP fun e => e.status == .approved
  rejected := elements.countP fun e => e.status == .rejected
  highCriticality := elements.countP fun e => e.criticality == some .high
  owned := elements.countP Element.hasOwner
  averageScore := DataGovernance.averageScore elements
  ownershipCoverage := percentage elements Element.hasOwner
  lineageCoverage := percentage elements Element.hasCompleteLineage

/-- A summary as JSON. -/
def toValue (s : ElementSummary) : Value :=
  .object [
    ("total", .nat s.total),
    ("pending", .nat s.pending),
    ("approved", .nat s.approved),
    ("rejected", .nat s.rejected),
    ("high_criticality", .nat s.highCriticality),
    ("owned", .nat s.owned),
    ("average_score", .nat s.averageScore),
    ("ownership_coverage", .nat s.ownershipCoverage),
    ("lineage_coverage", .nat s.lineageCoverage)]

end ElementSummary

/-! ### Issues -/

/-- The whole seconds from the creation of an issue to its resolution, unless they are negative. -/
def Issue.resolutionSeconds? (i : Issue) : Option Nat :=
  match i.resolvedAt with
  | none => none
  | some resolvedAt =>
    let seconds := resolvedAt.secondsSince i.createdAt
    if 0 ≤ seconds then some seconds.toNat else none

/-- The mean time to resolution in days, over the issues whose seconds are known and not
negative. -/
def averageResolutionDays (issues : List Issue) : Nat :=
  let spans := issues.filterMap Issue.resolutionSeconds?
  figure (total spans) (spans.length * Time.daySeconds)

/-- A summary of issues. -/
structure IssueSummary where
  total : Nat
  opened : Nat := 0
  triaged : Nat := 0
  resolving : Nat := 0
  pendingVerification : Nat := 0
  verified : Nat := 0
  closed : Nat := 0
  escalated : Nat := 0
  critical : Nat := 0
  high : Nat := 0
  medium : Nat := 0
  low : Nat := 0
  blocking : Nat := 0
  averageResolutionDays : Nat
  deriving DecidableEq, Repr

namespace IssueSummary

/-- One issue more in a status. -/
def addStatus (s : IssueSummary) : IssueStatus → IssueSummary
  | .opened => { s with opened := s.opened + 1 }
  | .triaged => { s with triaged := s.triaged + 1 }
  | .resolving => { s with resolving := s.resolving + 1 }
  | .pendingVerification => { s with pendingVerification := s.pendingVerification + 1 }
  | .verified => { s with verified := s.verified + 1 }
  | .closed => { s with closed := s.closed + 1 }
  | .escalated => { s with escalated := s.escalated + 1 }

/-- One issue more of a severity. -/
def addSeverity (s : IssueSummary) : Severity → IssueSummary
  | .critical => { s with critical := s.critical + 1 }
  | .high => { s with high := s.high + 1 }
  | .medium => { s with medium := s.medium + 1 }
  | .low => { s with low := s.low + 1 }

/-- One issue more that holds the cycle up, if it does. -/
def addBlocking (s : IssueSummary) (holdsUp : Bool) : IssueSummary :=
  if holdsUp then { s with blocking := s.blocking + 1 } else s

/-- Counts an issue by its status and its severity, and once more if it holds the cycle up. -/
def add (s : IssueSummary) (i : Issue) : IssueSummary :=
  ((s.addStatus i.status).addSeverity i.severity).addBlocking i.isCriticalUnresolved

/-- The summary of a list of issues. -/
def ofList (issues : List Issue) : IssueSummary :=
  issues.foldl add {
    total := issues.length
    averageResolutionDays := DataGovernance.averageResolutionDays issues }

/-- A summary as JSON. -/
def toValue (s : IssueSummary) : Value :=
  .object [
    ("total", .nat s.total),
    ("open", .nat s.opened),
    ("triaged", .nat s.triaged),
    ("resolving", .nat s.resolving),
    ("pending_verification", .nat s.pendingVerification),
    ("verified", .nat s.verified),
    ("closed", .nat s.closed),
    ("escalated", .nat s.escalated),
    ("critical", .nat s.critical),
    ("high", .nat s.high),
    ("medium", .nat s.medium),
    ("low", .nat s.low),
    ("blocking", .nat s.blocking),
    ("avg_resolution_time_days", .nat s.averageResolutionDays)]

end IssueSummary

/-! ### Matches -/

/-- A summary of matches. -/
structure MatchSummary where
  total : Nat
  exactly : Nat
  partly : Nat
  new : Nat
  missing : Nat
  decided : Nat
  pending : Nat
  completion : Nat
  deriving DecidableEq, Repr

namespace MatchSummary

/-- The summary of a list of matches. -/
def ofList (ms : List Match) : MatchSummary where
  total := ms.length
  exactly := ms.countP fun m => m.matchType == .exactly
  partly := ms.countP fun m => m.matchType == .partly
  new := ms.countP fun m => m.matchType == .new
  missing := ms.countP fun m => m.matchType == .missing
  decided := ms.length - ms.countP Match.isPending
  pending := ms.countP Match.isPending
  completion := percentage ms fun m => !m.isPending

/-- A summary as JSON. -/
def toValue (s : MatchSummary) : Value :=
  .object [
    ("total", .nat s.total),
    ("exact", .nat s.exactly),
    ("partial", .nat s.partly),
    ("new", .nat s.new),
    ("missing", .nat s.missing),
    ("decided", .nat s.decided),
    ("pending", .nat s.pending),
    ("completion", .nat s.completion)]

end MatchSummary

/-! ### Lineage -/

/-- A summary of the lineage. -/
structure LineageSummary where
  nodes : Nat
  edges : Nat
  sourceTables : Nat
  transformations : Nat
  stagingTables : Nat
  reportFields : Nat
  linked : Nat
  /-- The nodes without business terms whose linking is deferred. -/
  deferred : Nat
  unlinked : Nat
  linkingCoverage : Nat
  deriving DecidableEq, Repr

namespace LineageSummary

/-- The number of nodes with business terms. -/
def linkedIn (nodes : List Node) : Nat := nodes.countP fun n => !n.businessTerms.isEmpty

/-- The number of nodes without business terms whose linking is deferred. -/
def deferredIn (nodes : List Node) : Nat :=
  nodes.countP fun n => n.businessTerms.isEmpty && n.businessTermsDeferred

/-- The summary of a lineage. -/
def ofLineage (l : Lineage) : LineageSummary where
  nodes := l.nodes.length
  edges := l.edges.length
  sourceTables := l.nodes.countP fun n => n.nodeType == .sourceTable
  transformations := l.nodes.countP fun n => n.nodeType == .transformation
  stagingTables := l.nodes.countP fun n => n.nodeType == .stagingTable
  reportFields := l.nodes.countP fun n => n.nodeType == .reportField
  linked := linkedIn l.nodes
  deferred := deferredIn l.nodes
  unlinked := l.nodes.length - linkedIn l.nodes - deferredIn l.nodes
  linkingCoverage := percentage l.nodes Node.isLinkedOrDeferred

/-- A summary as JSON. -/
def toValue (s : LineageSummary) : Value :=
  .object [
    ("nodes", .nat s.nodes),
    ("edges", .nat s.edges),
    ("source_tables", .nat s.sourceTables),
    ("transformations", .nat s.transformations),
    ("staging_tables", .nat s.stagingTables),
    ("report_fields", .nat s.reportFields),
    ("linked", .nat s.linked),
    ("deferred", .nat s.deferred),
    ("unlinked", .nat s.unlinked),
    ("linking_coverage", .nat s.linkingCoverage)]

end LineageSummary

end DataGovernance
