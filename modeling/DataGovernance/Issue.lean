import DataGovernance.Time.Timestamp
import DataGovernance.Vocabulary

/-!
# Data quality issues

An issue is triaged, resolved, verified and closed. From the open states it may be escalated, which
sends it back to triage later. Its resolution says what was done and names the evidence.

Key definitions: `IssueStatus`, `IssueStatus.next`, `IssueStatus.isSettled`, `Resolution`, `Issue`.
-/

namespace DataGovernance

/-- How bad an issue is. -/
inductive Severity where
  | critical
  | high
  | medium
  | low
  deriving DecidableEq, Repr

instance : Vocabulary Severity where
  members := [.critical, .high, .medium, .low]
  word
    | .critical => "critical"
    | .high => "high"
    | .medium => "medium"
    | .low => "low"
  mem_members a := by cases a <;> decide
  nodup_words := by decide

/-- How soon an issue is to be resolved, the most urgent first. -/
inductive Priority where
  | p1
  | p2
  | p3
  | p4
  deriving DecidableEq, Repr

instance : Vocabulary Priority where
  members := [.p1, .p2, .p3, .p4]
  word
    | .p1 => "p1"
    | .p2 => "p2"
    | .p3 => "p3"
    | .p4 => "p4"
  mem_members a := by cases a <;> decide
  nodup_words := by decide

/-- The state of an issue. -/
inductive IssueStatus where
  | opened
  | triaged
  | resolving
  | pendingVerification
  | verified
  | closed
  | escalated
  deriving DecidableEq, Repr

instance : Vocabulary IssueStatus where
  members := [.opened, .triaged, .resolving, .pendingVerification, .verified, .closed, .escalated]
  word
    | .opened => "open"
    | .triaged => "triaged"
    | .resolving => "resolving"
    | .pendingVerification => "pending_verification"
    | .verified => "verified"
    | .closed => "closed"
    | .escalated => "escalated"
  mem_members a := by cases a <;> decide
  nodup_words := by decide

namespace IssueStatus

/-- The statuses that a status may change into. -/
def next : IssueStatus → List IssueStatus
  | opened => [triaged, escalated]
  | triaged => [resolving, escalated]
  | resolving => [pendingVerification, escalated]
  | pendingVerification => [verified, resolving]
  | verified => [closed]
  | escalated => [triaged]
  | closed => []

/-- Whether an issue in this state no longer holds the cycle up. -/
def isSettled : IssueStatus → Bool
  | verified | closed | escalated => true
  | opened | triaged | resolving | pendingVerification => false

end IssueStatus

/-- What kind of remedy resolved an issue. -/
inductive ResolutionType where
  | dataCorrection
  | processChange
  | systemFix
  | exceptionApproved
  deriving DecidableEq, Repr

instance : Vocabulary ResolutionType where
  members := [.dataCorrection, .processChange, .systemFix, .exceptionApproved]
  word
    | .dataCorrection => "data_correction"
    | .processChange => "process_change"
    | .systemFix => "system_fix"
    | .exceptionApproved => "exception_approved"
  mem_members a := by cases a <;> decide
  nodup_words := by decide

/-- An attachment that shows that an issue was resolved. -/
structure Evidence where
  name : String
  uri : Option String := none
  deriving DecidableEq, Repr

/-- What was done about an issue. -/
structure Resolution where
  resolutionType : Option ResolutionType := none
  description : String := ""
  evidence : List Evidence := []
  deriving DecidableEq, Repr

/-- A data quality issue. -/
structure Issue where
  id : String
  title : String
  severity : Severity
  status : IssueStatus
  priority : Option Priority := none
  suggestedPriority : Option Priority := none
  assignee : Option String := none
  elementId : Option String := none
  resolution : Option Resolution := none
  createdAt : Time.Timestamp
  resolvedAt : Option Time.Timestamp := none
  deriving DecidableEq, Repr

namespace Issue

/-- Whether a critical issue still holds the cycle up. -/
def isCriticalUnresolved (i : Issue) : Bool := i.severity == .critical && !i.status.isSettled

/-- Whether an issue is being worked on or waits for the result to be verified. -/
def isInResolution (i : Issue) : Bool :=
  i.status == .resolving || i.status == .pendingVerification

end Issue

end DataGovernance
