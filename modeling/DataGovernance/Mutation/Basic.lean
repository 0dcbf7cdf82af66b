import DataGovernance.Change.Element
import DataGovernance.Change.Issue
import DataGovernance.Change.Match
import DataGovernance.Change.Node
import DataGovernance.Snapshot.Basic

/-!
# Mutations

The thirteen ways in which a steward changes the entities of a cycle. Each changes one collection of
the snapshot.

Key definitions: `MutationKind`, `Mutation`, `Mutation.kind`, `Mutation.perform`.
-/

namespace DataGovernance

/-- The kinds of mutations. -/
inductive MutationKind where
  | assignOwner
  | setElementStatus
  | approveAllPending
  | setIssueStatus
  | assignIssue
  | setPriority
  | acceptSuggestedPriority
  | submitResolution
  | verifyResolution
  | recordAction
  | acceptSuggestedActions
  | linkBusinessTerms
  | deferBusinessTerms
  deriving DecidableEq, Repr

instance : Vocabulary MutationKind where
  members :=
    [.assignOwner, .setElementStatus, .approveAllPending, .setIssueStatus, .assignIssue,
      .setPriority, .acceptSuggestedPriority, .submitResolution, .verifyResolution, .recordAction,
      .acceptSuggestedActions, .linkBusinessTerms, .deferBusinessTerms]
  word
    | .assignOwner => "assign_owner"
    | .setElementStatus => "set_cde_status"
    | .approveAllPending => "approve_all_pending"
    | .setIssueStatus => "set_issue_status"
    | .assignIssue => "assign_issue"
    | .setPriority => "set_priority"
    | .acceptSuggestedPriority => "accept_suggested_priority"
    | .submitResolution => "submit_resolution"
    | .verifyResolution => "verify_resolution"
    | .recordAction => "record_action"
    | .acceptSuggestedActions => "accept_suggested_actions"
    | .linkBusinessTerms => "link_business_terms"
    | .deferBusinessTerms => "defer_business_terms"
  mem_members a := by cases a <;> decide
  nodup_words := by decide

/-- A change that a steward makes. -/
inductive Mutation where
  | assignOwner (elementId : String) (owner : Owner)
  | setElementStatus (elementId : String) (status : ElementStatus)
  | approveAllPending
  | setIssueStatus (issueId : String) (status : IssueStatus)
  | assignIssue (issueId assignee : String)
  | setPriority (issueId : String) (priority : Priority)
  | acceptSuggestedPriority (issueId : String)
  /-- The resolution is stamped with the current time unless it has a time of its own. -/
  | submitResolution (issueId : String) (resolution : Resolution) (time : Option Time.Timestamp)
  | verifyResolution (issueId : String) (accepted : Bool)
  | recordAction (currentId : String) (action : MatchAction)
  | acceptSuggestedActions
  | linkBusinessTerms (nodeId : String) (terms : List String)
  | deferBusinessTerms (nodeId reason : String)
  deriving DecidableEq, Repr

namespace Mutation

/-- The kind of a mutation. -/
def kind : Mutation → MutationKind
  | assignOwner _ _ => .assignOwner
  | setElementStatus _ _ => .setElementStatus
  | approveAllPending => .approveAllPending
  | setIssueStatus _ _ => .setIssueStatus
  | assignIssue _ _ => .assignIssue
  | setPriority _ _ => .setPriority
  | acceptSuggestedPriority _ => .acceptSuggestedPriority
  | submitResolution _ _ _ => .submitResolution
  | verifyResolution _ _ => .verifyResolution
  | recordAction _ _ => .recordAction
  | acceptSuggestedActions => .acceptSuggestedActions
  | linkBusinessTerms _ _ => .linkBusinessTerms
  | deferBusinessTerms _ _ => .deferBusinessTerms

end Mutation

namespace Snapshot

/-- Replaces the elements. -/
def putElements (s : Snapshot) (elements : List Element) : Snapshot := { s with elements }

/-- Replaces the issues. -/
def putIssues (s : Snapshot) (issues : List Issue) : Snapshot := { s with issues }

/-- Replaces the matches. -/
def putMatches (s : Snapshot) (reconciliation : List Match) : Snapshot :=
  { s with reconciliation }

/-- Replaces the nodes of the lineage. -/
def putNodes (s : Snapshot) (nodes : List Node) : Snapshot :=
  { s with lineage := { s.lineage with nodes } }

end Snapshot

/-- The snapshot with the entities as a mutation leaves them, under the given rules and at the given
time. The version stays. -/
def Mutation.perform (rules : ResolutionRules) (now : Time.Timestamp) (s : Snapshot) :
    Mutation → Except ChangeError Snapshot
  | assignOwner id owner => s.putElements <$> DataGovernance.assignOwner id owner s.elements
  | setElementStatus id status =>
    s.putElements <$> DataGovernance.setElementStatus id status s.elements
  | approveAllPending => .ok (s.putElements (DataGovernance.approveAllPending s.elements))
  | setIssueStatus id status => s.putIssues <$> DataGovernance.setIssueStatus id status s.issues
  | assignIssue id assignee => s.putIssues <$> DataGovernance.assignIssue id assignee s.issues
  | setPriority id priority => s.putIssues <$> DataGovernance.setPriority id priority s.issues
  | acceptSuggestedPriority id =>
    s.putIssues <$> DataGovernance.acceptSuggestedPriority id s.issues
  | submitResolution id resolution time =>
    s.putIssues <$>
      DataGovernance.submitResolution rules (time.getD now) id resolution s.issues
  | verifyResolution id accepted =>
    s.putIssues <$> DataGovernance.verifyResolution id accepted s.issues
  | recordAction id action =>
    s.putMatches <$> DataGovernance.recordAction id action s.reconciliation
  | acceptSuggestedActions =>
    .ok (s.putMatches (DataGovernance.acceptSuggestedActions s.reconciliation))
  | linkBusinessTerms id terms =>
    s.putNodes <$> DataGovernance.linkBusinessTerms id terms s.lineage.nodes
  | deferBusinessTerms id reason =>
    s.putNodes <$> DataGovernance.deferBusinessTerms id reason s.lineage.nodes

end DataGovernance
