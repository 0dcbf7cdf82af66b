import DataGovernance.Time.Timestamp
import DataGovernance.Vocabulary

/-!
# Critical data elements

The inventory of a cycle lists the data elements that its reports depend on. An element is reviewed
(pending, then approved or rejected, and pending again when it is reopened), has an owner once one
is assigned, and may carry what is known about its lineage.

Key definitions: `ElementStatus`, `ElementStatus.next`, `Element`.
-/

namespace DataGovernance

/-- The state of an element's review. -/
inductive ElementStatus where
  | pending
  | approved
  | rejected
  deriving DecidableEq, Repr

instance : Vocabulary ElementStatus where
  members := [.pending, .approved, .rejected]
  word
    | .pending => "pending"
    | .approved => "approved"
    | .rejected => "rejected"
  mem_members a := by cases a <;> decide
  nodup_words := by decide

/-- The statuses that a status may change into. -/
def ElementStatus.next : ElementStatus → List ElementStatus
  | pending => [approved, rejected]
  | approved => [pending]
  | rejected => [pending]

/-- How much depends on an element. -/
inductive Criticality where
  | high
  | medium
  | low
  deriving DecidableEq, Repr

instance : Vocabulary Criticality where
  members := [.high, .medium, .low]
  word
    | .high => "high"
    | .medium => "medium"
    | .low => "low"
  mem_members a := by cases a <;> decide
  nodup_words := by decide

/-- Who answers for an element. -/
structure Owner where
  name : String
  email : Option String := none
  deriving DecidableEq, Repr

/-- What is known about where an element's data comes from. -/
structure LineageInfo where
  hasCompleteLineage : Bool
  sourceSystems : List String := []
  deriving DecidableEq, Repr

/-- A quality score. It is meant to be at most 100. -/
abbrev Score := Fin 256

/-- A critical data element. -/
structure Element where
  id : String
  name : String
  status : ElementStatus
  owner : Option Owner := none
  overallScore : Score
  criticality : Option Criticality := none
  lineageInfo : Option LineageInfo := none
  createdAt : Time.Timestamp
  deriving DecidableEq, Repr

namespace Element

/-- Whether an element has an owner. -/
def hasOwner (e : Element) : Bool := e.owner.isSome

/-- Whether an element's lineage is known to be complete. -/
def hasCompleteLineage (e : Element) : Bool :=
  match e.lineageInfo with
  | some info => info.hasCompleteLineage
  | none => false

end Element

end DataGovernance
