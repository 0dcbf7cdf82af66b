import DataGovernance.Vocabulary

/-!
# Lineage

The lineage of the reports: nodes are tables, transformations and report fields, and an edge leads
from where data comes from to where it goes. A node is linked when it has business terms; the
linking may also be deferred.

Key definitions: `NodeType`, `Node`, `Edge`, `Lineage`.
-/

namespace DataGovernance

/-- What a node of the lineage is. -/
inductive NodeType where
  | sourceTable
  | transformation
  | stagingTable
  | reportField
  deriving DecidableEq, Repr

instance : Vocabulary NodeType where
  members := [.sourceTable, .transformation, .stagingTable, .reportField]
  word
    | .sourceTable => "source_table"
    | .transformation => "transformation"
    | .stagingTable => "staging_table"
    | .reportField => "report_field"
  mem_members a := by cases a <;> decide
  nodup_words := by decide

/-- A node of the lineage. -/
structure Node where
  id : String
  label : String
  nodeType : NodeType
  relatedElements : List String := []
  businessTerms : List String := []
  businessTermsDeferred : Bool := false
  deferralReason : Option String := none
  deriving DecidableEq, Repr

/-- Whether a node has business terms or their linking is deferred. -/
def Node.isLinkedOrDeferred (n : Node) : Bool :=
  !n.businessTerms.isEmpty || n.businessTermsDeferred

/-- A step that data takes from one node to another. -/
structure Edge where
  source : String
  target : String
  deriving DecidableEq, Repr

/-- The nodes and edges of the lineage. -/
structure Lineage where
  nodes : List Node := []
  edges : List Edge := []
  deriving DecidableEq, Repr

end DataGovernance
