import DataGovernance.Session.Basic
import DataGovernance.Summary

/-!
# What a session shows

The status says where the cycle stands and whether it may move on; the dashboard adds the summaries
of the collections and the reports of all gates.

Key definitions: `Status`, `Session.status`, `Dashboard`, `Session.dashboard`.
-/

namespace DataGovernance

open Json

/-- The word of a member, as JSON. -/
def wordValue {α : Type} [Vocabulary α] (a : α) : Value := .str (Vocabulary.word a)

/-- Where a cycle stands and whether it may move on. -/
structure Status where
  cycleId : String
  version : Count
  phase : Phase
  step : Step
  nextStep : Option Step
  /-- The report of the gate of the step. -/
  gate : Option GateReport
  canAdvance : Bool
  deriving DecidableEq, Repr

/-- A status as JSON. -/
def Status.toValue (s : Status) : Value :=
  .object [
    ("cycle_id", .str s.cycleId),
    ("version", .nat s.version.val),
    ("phase", wordValue s.phase),
    ("step", wordValue s.step),
    ("next_step", .ofOption (s.nextStep.map Vocabulary.word)),
    ("gate", (s.gate.map GateReport.toValue).getD .null),
    ("can_advance", .bool s.canAdvance)]

/-- The status of a session. -/
def Session.status (σ : Session) : Status where
  cycleId := σ.snapshot.cycleId
  version := σ.version
  phase := σ.step.phase
  step := σ.step
  nextStep := σ.step.next?
  gate := σ.exitGate
  canAdvance := σ.step.next?.isSome && σ.exitGate.all GateReport.passed

/-- An overview of a cycle. -/
structure Dashboard where
  cycleId : String
  version : Count
  step : Step
  elements : ElementSummary
  issues : IssueSummary
  reconciliation : MatchSummary
  lineage : LineageSummary
  gates : List GateReport
  deriving DecidableEq, Repr

/-- A dashboard as JSON. -/
def Dashboard.toValue (d : Dashboard) : Value :=
  .object [
    ("cycle_id", .str d.cycleId),
    ("version", .nat d.version.val),
    ("phase", wordValue d.step.phase),
    ("step", wordValue d.step),
    ("cdes", d.elements.toValue),
    ("issues", d.issues.toValue),
    ("reconciliation", d.reconciliation.toValue),
    ("lineage", d.lineage.toValue),
    ("gates", .list (d.gates.map GateReport.toValue))]

/-- The dashboard of a session. -/
def Session.dashboard (σ : Session) : Dashboard where
  cycleId := σ.snapshot.cycleId
  version := σ.version
  step := σ.step
  elements := .ofList σ.snapshot.elements
  issues := .ofList σ.snapshot.issues
  reconciliation := .ofList σ.snapshot.reconciliation
  lineage := .ofLineage σ.snapshot.lineage
  gates := σ.gateReports

/-- An impact as JSON. -/
def Impact.toValue (i : Impact) : Value :=
  .object [
    ("source_id", .str i.source),
    ("affected_nodes", .texts i.nodes),
    ("affected_cdes", .texts i.elements),
    ("affected_reports", .texts i.reports),
    ("estimated_impact_level", wordValue i.level)]

/-- The figures of a graph as JSON. -/
def Graph.Stats.toValue (s : Graph.Stats) : Value :=
  .object [
    ("node_count", .nat s.nodeCount),
    ("edge_count", .nat s.edgeCount),
    ("source_tables", .nat s.sourceTables),
    ("report_fields", .nat s.reportFields),
    ("has_cycles", .bool s.hasCycles)]

end DataGovernance
