import DataGovernance.Record.Fields
import DataGovernance.Snapshot.Basic

/-!
# Snapshots as JSON

The shapes of a snapshot and of the records in it: the order and keys of their fields, and which
fields may be absent. A snapshot file is the indented text of its snapshot.

Key definitions: the `shape` of each record, `Snapshot.ofText`, `Snapshot.toText`.
-/

namespace DataGovernance

open Json Record Record.Field

/-! ### Elements -/

/-- The shape of an owner. -/
def Owner.shape : Shape Owner where
  title := "struct Owner"
  blank := { name := "" }
  fields := [
    needs "name" .text name fun v r => { r with name := v },
    allows "email" (.option .text) email fun v r => { r with email := v }]

/-- The shape of lineage information. -/
def LineageInfo.shape : Shape LineageInfo where
  title := "struct LineageInfo"
  blank := { hasCompleteLineage := false }
  fields := [
    needs "has_complete_lineage" .flag hasCompleteLineage fun v r =>
      { r with hasCompleteLineage := v },
    allows "source_systems" (.list .text) sourceSystems fun v r => { r with sourceSystems := v }]

/-- The shape of an element. -/
def Element.shape : Shape Element where
  title := "struct Cde"
  blank :=
    { id := "", name := "", status := .pending, overallScore := 0, createdAt := .epoch }
  fields := [
    needs "id" .text id fun v r => { r with id := v },
    needs "name" .text name fun v r => { r with name := v },
    needs "status" (.word ElementStatus) status fun v r => { r with status := v },
    allows "owner" (.option Owner.shape.codec) owner fun v r => { r with owner := v },
    needs "overall_score" (.natural "u8" 256) overallScore fun v r => { r with overallScore := v },
    allows "criticality" (.option (.word Criticality)) criticality fun v r =>
      { r with criticality := v },
    allows "lineage_info" (.option LineageInfo.shape.codec) lineageInfo fun v r =>
      { r with lineageInfo := v },
    needs "created_at" .timestamp createdAt fun v r => { r with createdAt := v }]

/-! ### Issues -/

/-- The shape of a piece of evidence. -/
def Evidence.shape : Shape Evidence where
  title := "struct Evidence"
  blank := { name := "" }
  fields := [
    needs "name" .text name fun v r => { r with name := v },
    allows "uri" (.option .text) uri fun v r => { r with uri := v }]

/-- The shape of a resolution. -/
def Resolution.shape : Shape Resolution where
  title := "struct Resolution"
  blank := {}
  fields := [
    allows "resolution_type" (.option (.word ResolutionType)) resolutionType fun v r =>
      { r with resolutionType := v },
    allows "description" .text description fun v r => { r with description := v },
    allows "evidence" (.list Evidence.shape.codec) evidence fun v r => { r with evidence := v }]

/-- The shape of an issue. -/
def Issue.shape : Shape Issue where
  title := "struct Issue"
  blank := { id := "", title := "", severity := .critical, status := .opened, createdAt := .epoch }
  fields := [
    needs "id" .text id fun v r => { r with id := v },
    needs "title" .text title fun v r => { r with title := v },
    needs "severity" (.word Severity) severity fun v r => { r with severity := v },
    needs "status" (.word IssueStatus) status fun v r => { r with status := v },
    allows "priority" (.option (.word Priority)) priority fun v r => { r with priority := v },
    allows "suggested_priority" (.option (.word Priority)) suggestedPriority fun v r =>
      { r with suggestedPriority := v },
    allows "assignee" (.option .text) assignee fun v r => { r with assignee := v },
    allows "cde_id" (.option .text) elementId fun v r => { r with elementId := v },
    allows "resolution" (.option Resolution.shape.codec) resolution fun v r =>
      { r with resolution := v },
    needs "created_at" .timestamp createdAt fun v r => { r with createdAt := v },
    allows "resolved_at" (.option .timestamp) resolvedAt fun v r => { r with resolvedAt := v }]

/-! ### Reconciliation -/

/-- The shape of a match. -/
def Match.shape : Shape Match where
  title := "struct ReconciliationMatch"
  blank := { currentId := "", matchType := .exactly }
  fields := [
    needs "current_id" .text currentId fun v r => { r with currentId := v },
    allows "external_id" (.option .text) externalId fun v r => { r with externalId := v },
    needs "match_type" (.word MatchType) matchType fun v r => { r with matchType := v },
    allows "suggested_action" (.option (.word MatchAction)) suggestedAction fun v r =>
      { r with suggestedAction := v },
    allows "action_taken" (.option (.word MatchAction)) actionTaken fun v r =>
      { r with actionTaken := v }]

/-! ### Lineage -/

/-- The shape of a node. -/
def Node.shape : Shape Node where
  title := "struct LineageNode"
  blank := { id := "", label := "", nodeType := .sourceTable }
  fields := [
    needs "id" .text id fun v r => { r with id := v },
    needs "label" .text label fun v r => { r with label := v },
    needs "node_type" (.word NodeType) nodeType fun v r => { r with nodeType := v },
    allows "related_cdes" (.list .text) relatedElements fun v r => { r with relatedElements := v },
    allows "business_terms" (.list .text) businessTerms fun v r => { r with businessTerms := v },
    allows "business_terms_deferred" .flag businessTermsDeferred fun v r =>
      { r with businessTermsDeferred := v },
    allows "deferral_reason" (.option .text) deferralReason fun v r =>
      { r with deferralReason := v }]

/-- The shape of an edge. -/
def Edge.shape : Shape Edge where
  title := "struct LineageEdge"
  blank := { source := "", target := "" }
  fields := [
    needs "source" .text source fun v r => { r with source := v },
    needs "target" .text target fun v r => { r with target := v }]

/-- The shape of the lineage. -/
def Lineage.shape : Shape Lineage where
  title := "struct LineageSnapshot"
  blank := {}
  fields := [
    allows "nodes" (.list Node.shape.codec) nodes fun v r => { r with nodes := v },
    allows "edges" (.list Edge.shape.codec) edges fun v r => { r with edges := v }]

/-! ### The snapshot -/

/-- The shape of the progress. -/
def Progress.shape : Shape Progress where
  title := "struct Progress"
  blank := {}
  fields := [needs "step" (.word Step) step fun v r => { r with step := v }]

/-- The shape of a snapshot. -/
def Snapshot.shape : Shape Snapshot where
  title := "struct WorkflowSnapshot"
  blank := {}
  fields := [
    needs "cycle_id" .text cycleId fun v r => { r with cycleId := v },
    allows "version" (.natural "u64" wordSize) version fun v r => { r with version := v },
    allows "progress" Progress.shape.codec progress fun v r => { r with progress := v },
    allows "cdes" (.list Element.shape.codec) elements fun v r => { r with elements := v },
    allows "issues" (.list Issue.shape.codec) issues fun v r => { r with issues := v },
    allows "reconciliation" (.list Match.shape.codec) reconciliation fun v r =>
      { r with reconciliation := v },
    allows "lineage" Lineage.shape.codec lineage fun v r => { r with lineage := v }]

/-- Reads the text of a snapshot. -/
def Snapshot.ofText (text : String) : Except ReadError Snapshot :=
  Snapshot.shape.codec.ofText text

/-- The text of a snapshot. -/
def Snapshot.toText (s : Snapshot) : String := (Snapshot.shape.encode s).indented

end DataGovernance
