import DataGovernance.Lineage.Graph

/-!
# The impact of a change

A change to a node touches the nodes downstream of it, the elements that these are related to and
the report fields among them. More than five elements make the impact critical; otherwise any report
field makes it high, and more than two elements make it medium.

Key definitions: `ImpactLevel`, `ImpactLevel.ofCounts`, `Impact`, `Graph.impact`.
-/

namespace DataGovernance

/-- How much a change touches. -/
inductive ImpactLevel where
  | low
  | medium
  | high
  | critical
  deriving DecidableEq, Repr

instance : Vocabulary ImpactLevel where
  members := [.low, .medium, .high, .critical]
  word
    | .low => "low"
    | .medium => "medium"
    | .high => "high"
    | .critical => "critical"
  mem_members a := by cases a <;> decide
  nodup_words := by decide

/-- The level for a number of elements and of report fields. -/
def ImpactLevel.ofCounts (elements reports : Nat) : ImpactLevel :=
  if 5 < elements then critical
  else if 0 < reports then high
  else if 2 < elements then medium
  else low

/-- What a change to a node touches. -/
structure Impact where
  source : String
  nodes : List String
  elements : List String
  /-- The labels of report fields. -/
  reports : List String
  level : ImpactLevel
  deriving DecidableEq, Repr

/-- The impact of a change to a node. -/
def Graph.impact (g : Graph) (id : String) : Except LineageError Impact := do
  let ids ← g.reachable id .downstream
  let nodes := ids.filterMap g.node?
  let elements := Text.sortedSet (nodes.flatMap Node.relatedElements)
  let reports := Text.sortedSet
    ((nodes.filter fun n => n.nodeType == .reportField).map Node.label)
  return {
    source := id
    nodes := ids
    elements
    reports
    level := .ofCounts elements.length reports.length }

end DataGovernance
