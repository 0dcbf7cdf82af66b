import DataGovernance.Snapshot.Format

/-!
# The schema of snapshot files

A snapshot file can be checked by other programs against its JSON schema. The schema names the
fields of each record in code point order, says which have to be present, and lists the words of the
vocabularies.

Key definitions: `Schema.ofRecord`, `Schema.ofWords`, `Snapshot.schema`.
-/

namespace DataGovernance

open Json Record

namespace Schema

/-- The members of an object. -/
abbrev Members := List (String × Value)

/-- Puts a description before the members of a schema. -/
def described (what : String) (ms : Members) : Members := ("description", .str what) :: ms

/-- Values of a type. -/
def typed (name : String) : Members := [("type", .str name)]

/-- Texts. -/
def text : Members := typed "string"

/-- Points in time. -/
def moment : Members := text ++ [("format", .str "date-time")]

/-- Texts that may be absent, in a format if one is given. -/
def optionalText (format : Option String) : Members :=
  [("type", .texts ["string", "null"])] ++
    (format.map fun f => ("format", Value.str f)).toList ++
    [("default", .null)]

/-- What is defined under a name. -/
def ref (name : String) : Members := [("$ref", .str ("#/$defs/" ++ name))]

/-- What is defined under a name, or nothing. -/
def optionalRef (name : String) : Members :=
  [("anyOf", .list [.object (ref name), .object (typed "null")]), ("default", .null)]

/-- Lists, empty when absent. -/
def listOf (items : Members) : Members :=
  typed "array" ++ [("default", .list []), ("items", .object items)]

/-- The records of a shape: the schemas of the fields, and the fields that have to be present. -/
def ofRecord {ρ : Type} (what : String) (shape : Shape ρ) (properties : List (String × Members)) :
    Members :=
  let required := (shape.fields.filter Field.needed).map Field.name
  described what <|
    typed "object" ++
      [("properties", .object (properties.map fun (name, ms) => (name, .object ms)))] ++
      (if required = [] then [] else [("required", .texts required)])

/-- The words of a vocabulary. -/
def ofWords (α : Type) [Vocabulary α] (what : String) : Members :=
  described what (text ++ [("enum", .texts (Vocabulary.words α))])

/-- The words of a vocabulary, each with a description. -/
def ofDescribedWords (α : Type) [Vocabulary α] (what : String) (describe : α → String) : Members :=
  described what
    [("oneOf", .list ((Vocabulary.members : List α).map fun a =>
      .object (described (describe a) (text ++ [("const", .str (Vocabulary.word a))]))))]

/-! ### Elements -/

/-- The schema of an element. -/
def element : Members :=
  ofRecord "A critical data element under review in the current cycle." Element.shape [
    ("created_at", moment),
    ("criticality", optionalRef "Criticality"),
    ("id", text),
    ("lineage_info", optionalRef "LineageInfo"),
    ("name", text),
    ("overall_score", described "AI-assigned score: 0 to 100." (typed "integer" ++
      [("format", .str "uint8"), ("maximum", .nat 255), ("minimum", .nat 0)])),
    ("owner", optionalRef "Owner"),
    ("status", ref "CdeStatus")]

/-- The schema of an element's status. -/
def elementStatus : Members :=
  ofWords ElementStatus <|
    "Review status of a critical data element.\n\n```text\n" ++
    "pending → approved → pending (reopened)\n" ++
    "        → rejected → pending (re-review)\n```"

/-- The schema of an owner. -/
def owner : Members :=
  ofRecord "Accountable data owner for a CDE." Owner.shape [
    ("email", optionalText none),
    ("name", text)]

/-- The schema of lineage information. -/
def lineageInfo : Members :=
  ofRecord "Lineage coverage recorded against a CDE by the pipeline scan." LineageInfo.shape [
    ("has_complete_lineage", typed "boolean"),
    ("source_systems", listOf text)]

/-! ### Issues -/

/-- The schema of an issue. -/
def issue : Members :=
  ofRecord "A data quality issue raised against the current cycle." Issue.shape [
    ("assignee", optionalText none),
    ("cde_id", described "CDE the issue was raised against, if any." (optionalText none)),
    ("created_at", moment),
    ("id", text),
    ("priority", optionalRef "Priority"),
    ("resolution", optionalRef "Resolution"),
    ("resolved_at", optionalText (some "date-time")),
    ("severity", ref "Severity"),
    ("status", ref "IssueStatus"),
    ("suggested_priority",
      described "Priority proposed by the assistant during triage." (optionalRef "Priority")),
    ("title", text)]

/-- The schema of an issue's status. -/
def issueStatus : Members :=
  ofWords IssueStatus <|
    "Status of an issue through triage, resolution, and verification.\n\n```text\n" ++
    "open → triaged → resolving → pending_verification → verified → closed\n" ++
    String.ofList (List.replicate 51 ' ') ++ "→ resolving (rejected)\n" ++
    "open | triaged | resolving → escalated → triaged\n```"

/-- The schema of a piece of evidence. -/
def evidence : Members :=
  ofRecord "A piece of supporting evidence attached to a resolution." Evidence.shape [
    ("name", text),
    ("uri", optionalText none)]

/-- The schema of a resolution. -/
def resolution : Members :=
  ofRecord "Resolution submitted for an issue." Resolution.shape [
    ("description", text ++ [("default", .str "")]),
    ("evidence", listOf (ref "Evidence")),
    ("resolution_type", optionalRef "ResolutionType")]

/-! ### Reconciliation -/

/-- The schema of a match. -/
def reconciliationMatch : Members :=
  ofRecord ("Correspondence between a current-cycle CDE and the external reference list.\n\n" ++
      "A match without `action_taken` is pending.") Match.shape [
    ("action_taken", optionalRef "ReconciliationAction"),
    ("current_id", text),
    ("external_id", optionalText none),
    ("match_type", ref "MatchType"),
    ("suggested_action", optionalRef "ReconciliationAction")]

/-- The schema of the type of a match. -/
def matchType : Members :=
  ofDescribedWords MatchType
    "How a current-cycle CDE corresponds to the external reference list." fun
    | .exactly => "Same element in both lists."
    | .partly => "Likely the same element with differing attributes."
    | .new => "Present in the current cycle only."
    | .missing => "Present in the external list only."

/-! ### Lineage -/

/-- The schema of an edge. -/
def edge : Members :=
  ofRecord "Directed data flow from `source` to `target`." Edge.shape [
    ("source", text),
    ("target", text)]

/-- The schema of a node. -/
def node : Members :=
  ofRecord "A node in the data lineage graph." Node.shape [
    ("business_terms", listOf text),
    ("business_terms_deferred",
      described "Excused from business-term linking for the current cycle."
        (typed "boolean" ++ [("default", .bool false)])),
    ("deferral_reason", optionalText none),
    ("id", text),
    ("label", text),
    ("node_type", ref "NodeType"),
    ("related_cdes", described "CDE ids carried through this node." (listOf text))]

/-- The schema of the lineage. -/
def lineage : Members :=
  ofRecord "Raw lineage nodes and edges as delivered by the pipeline scan." Lineage.shape [
    ("edges", listOf (ref "LineageEdge")),
    ("nodes", listOf (ref "LineageNode"))]

/-! ### Progress -/

/-- The schema of the progress. -/
def progress : Members :=
  ofRecord "Where a workflow cycle currently stands in the wizard." Progress.shape [
    ("step", ref "Step")]

/-- The schema of a step. -/
def step : Members :=
  ofWords Step <|
    "A single step of the wizard.\n\n```text\n" ++
    "cde_identification: scoring_review → inventory_approval → ownership_assignment → " ++
    "reconciliation\n" ++
    "issue_management:   triage → resolution → verification\n" ++
    "lineage_mapping:    pipeline_scan → business_term_linking → impact_analysis → " ++
    "lineage_approval\n" ++
    "complete\n```"

/-- The schemas of everything that a snapshot refers to, by name. -/
def definitions : List (String × Members) := [
  ("Cde", element),
  ("CdeStatus", elementStatus),
  ("Criticality",
    ofWords Criticality "Regulatory criticality assigned to a CDE by scoring."),
  ("Evidence", evidence),
  ("Issue", issue),
  ("IssueStatus", issueStatus),
  ("LineageEdge", edge),
  ("LineageInfo", lineageInfo),
  ("LineageNode", node),
  ("LineageSnapshot", lineage),
  ("MatchType", matchType),
  ("NodeType", ofWords NodeType "Kind of a node in the lineage graph."),
  ("Owner", owner),
  ("Priority", ofWords Priority "Work priority of an issue: `p1` is the most urgent."),
  ("Progress", progress),
  ("ReconciliationAction",
    ofWords MatchAction "Action suggested for, or taken on, a reconciliation match."),
  ("ReconciliationMatch", reconciliationMatch),
  ("Resolution", resolution),
  ("ResolutionType", ofWords ResolutionType "How an issue was resolved."),
  ("Severity", ofWords Severity "Severity of a data quality issue."),
  ("Step", step)]

end Schema

/-- The name of the dialect that the schema is written in. -/
def Schema.dialect : String :=
  "https:" ++ String.intercalate "/" ["", "", "json-schema.org", "draft", "2020-12", "schema"]

open Schema in
/-- The JSON schema of snapshot files. -/
def Snapshot.schema : Value :=
  .object <|
    [("$schema", .str dialect),
      ("title", .str "WorkflowSnapshot")] ++
    ofRecord "Full state of a workflow cycle at a point in time." Snapshot.shape [
      ("cdes", listOf (ref "Cde")),
      ("cycle_id", text),
      ("issues", listOf (ref "Issue")),
      ("lineage", ref "LineageSnapshot" ++
        [("default", .object [("edges", .list []), ("nodes", .list [])])]),
      ("progress", ref "Progress" ++
        [("default", .object [("step", .str "scoring_review")])]),
      ("reconciliation", listOf (ref "ReconciliationMatch")),
      ("version", described
        "Incremented on every mutation; compared by the sync layer at write time."
        (typed "integer" ++
          [("format", .str "uint64"), ("default", .nat 0), ("minimum", .nat 0)]))] ++
    [("$defs", .object (definitions.map fun (name, ms) => (name, .object ms)))]

end DataGovernance
