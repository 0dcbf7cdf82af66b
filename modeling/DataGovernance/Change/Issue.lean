import DataGovernance.Change.Entity

/-!
# Changes of issues

An issue is handed over for verification by submitting a resolution that keeps the rules; the
verifier accepts it or sends the issue back.

Key definitions: `setIssueStatus`, `assignIssue`, `setPriority`, `acceptSuggestedPriority`,
`submitResolution`, `verifyResolution`.
-/

namespace DataGovernance

/-- Puts an issue into the status it has or one that may follow it. -/
def Issue.putStatus (status : IssueStatus) (i : Issue) : Except ChangeError Issue :=
  if i.status = status ∨ status ∈ i.status.next then .ok { i with status }
  else .error (.issueStatus i.id i.status status)

/-- Puts an issue into another status. -/
def setIssueStatus (id : String) (status : IssueStatus) (issues : List Issue) :
    Except ChangeError (List Issue) :=
  changeFirst id (Issue.putStatus status) issues

/-- Gives an issue to someone, whose name is stored without blanks around it. -/
def assignIssue (id assignee : String) (issues : List Issue) :
    Except ChangeError (List Issue) := do
  requireText .assignee assignee
  changeFirst id (fun i => .ok { i with assignee := some (Text.trimmed assignee) }) issues

/-- Sets the priority of an issue. -/
def setPriority (id : String) (priority : Priority) (issues : List Issue) :
    Except ChangeError (List Issue) :=
  changeFirst id (fun i => .ok { i with priority := some priority }) issues

/-- Takes the priority that is suggested for an issue, which triages it. -/
def Issue.takeSuggestion (i : Issue) : Except ChangeError Issue :=
  match i.suggestedPriority with
  | none => .error (.noSuggestedPriority i.id)
  | some priority => (i.putStatus .triaged).map fun i => { i with priority := some priority }

/-- Takes the priority that is suggested for an issue. -/
def acceptSuggestedPriority (id : String) (issues : List Issue) :
    Except ChangeError (List Issue) :=
  changeFirst id Issue.takeSuggestion issues

/-- Attaches a resolution to an issue that is being resolved and hands it over. -/
def Issue.handOver (resolution : Resolution) (now : Time.Timestamp) (i : Issue) :
    Except ChangeError Issue :=
  if i.status = .resolving then
    .ok { i with
      status := .pendingVerification
      resolution := some resolution
      resolvedAt := some now }
  else .error (.issueStatus i.id i.status .pendingVerification)

/-- Hands an issue over for verification with a resolution that keeps the rules. -/
def submitResolution (rules : ResolutionRules) (now : Time.Timestamp) (id : String)
    (resolution : Resolution) (issues : List Issue) : Except ChangeError (List Issue) :=
  match rules.problems resolution with
  | [] => changeFirst id (Issue.handOver resolution now) issues
  | problems => .error (.rejectedResolution problems)

/-- Decides on an issue that waits for verification. One that is sent back is resolved no more. -/
def Issue.decide (accepted : Bool) (i : Issue) : Except ChangeError Issue :=
  let target := if accepted then IssueStatus.verified else .resolving
  if i.status = .pendingVerification then
    .ok { i with status := target, resolvedAt := if accepted then i.resolvedAt else none }
  else .error (.issueStatus i.id i.status target)

/-- Accepts the resolution of an issue or sends the issue back. -/
def verifyResolution (id : String) (accepted : Bool) (issues : List Issue) :
    Except ChangeError (List Issue) :=
  changeFirst id (Issue.decide accepted) issues

end DataGovernance
