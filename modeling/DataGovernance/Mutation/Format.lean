import DataGovernance.Mutation.Basic
import DataGovernance.Snapshot.Format

/-!
# Mutations as JSON

A mutation is an object with the member `type`, which names its kind, and the members that the kind
has. The type may stand at any place, so everything is taken whole before the other members are
looked at. A mutation may also be a list of its type and its members' values in order.

Key definitions: `Mutation.encode`, `Mutation.decode`, `Mutation.codec`, `Mutation.ofText`.
-/

namespace DataGovernance

open Json Record Record.Field

namespace Mutation

/-! ### The members of each kind -/

/-- The shape of a pair of values, which go under two keys. -/
def pairShape {α β : Type} (title key₁ key₂ : String) (blank : α × β) (c₁ : Codec α)
    (c₂ : Codec β) : Shape (α × β) where
  title := "struct variant Mutation::" ++ title
  blank := blank
  fields := [
    needs key₁ c₁ Prod.fst fun v r => (v, r.2),
    needs key₂ c₂ Prod.snd fun v r => (r.1, v)]

/-- The members of an assignment of an owner. -/
def ownerShape : Shape (String × Owner) :=
  pairShape "AssignOwner" "cde_id" "owner" ("", Owner.shape.blank) .text Owner.shape.codec

/-- The members of a change of an element's status. -/
def elementStatusShape : Shape (String × ElementStatus) :=
  pairShape "SetCdeStatus" "cde_id" "status" ("", .pending) .text (.word ElementStatus)

/-- The members of a change of an issue's status. -/
def issueStatusShape : Shape (String × IssueStatus) :=
  pairShape "SetIssueStatus" "issue_id" "status" ("", .opened) .text (.word IssueStatus)

/-- The members of an assignment of an issue. -/
def assigneeShape : Shape (String × String) :=
  pairShape "AssignIssue" "issue_id" "assignee" ("", "") .text .text

/-- The members of a change of an issue's priority. -/
def priorityShape : Shape (String × Priority) :=
  pairShape "SetPriority" "issue_id" "priority" ("", .p1) .text (.word Priority)

/-- The members of an acceptance of a suggested priority. -/
def suggestionShape : Shape String where
  title := "struct variant Mutation::AcceptSuggestedPriority"
  blank := ""
  fields := [needs "issue_id" .text (fun r => r) fun v _ => v]

/-- The members of a submission. -/
def submissionShape : Shape (String × Resolution × Option Time.Timestamp) where
  title := "struct variant Mutation::SubmitResolution"
  blank := ("", {}, none)
  fields := [
    needs "issue_id" .text (·.1) fun v r => (v, r.2),
    needs "resolution" Resolution.shape.codec (·.2.1) fun v r => (r.1, v, r.2.2),
    allows "at" (.option .timestamp) (·.2.2) fun v r => (r.1, r.2.1, v)]

/-- The members of a verification. -/
def verificationShape : Shape (String × Bool) :=
  pairShape "VerifyResolution" "issue_id" "accepted" ("", false) .text .flag

/-- The members of a recorded action. -/
def actionShape : Shape (String × MatchAction) :=
  pairShape "RecordAction" "current_id" "action" ("", .accept) .text (.word MatchAction)

/-- The members of a linking. -/
def termsShape : Shape (String × List String) :=
  pairShape "LinkBusinessTerms" "node_id" "terms" ("", []) .text (.list .text)

/-- The members of a deferral. -/
def deferralShape : Shape (String × String) :=
  pairShape "DeferBusinessTerms" "node_id" "reason" ("", "") .text .text

/-! ### Writing -/

/-- The members of a mutation besides its type. -/
def payload : Mutation → List (String × Value)
  | assignOwner id owner => ownerShape.members (id, owner)
  | setElementStatus id status => elementStatusShape.members (id, status)
  | approveAllPending => []
  | setIssueStatus id status => issueStatusShape.members (id, status)
  | assignIssue id assignee => assigneeShape.members (id, assignee)
  | setPriority id priority => priorityShape.members (id, priority)
  | acceptSuggestedPriority id => suggestionShape.members id
  | submitResolution id resolution time => submissionShape.members (id, resolution, time)
  | verifyResolution id accepted => verificationShape.members (id, accepted)
  | recordAction id action => actionShape.members (id, action)
  | acceptSuggestedActions => []
  | linkBusinessTerms id terms => termsShape.members (id, terms)
  | deferBusinessTerms id reason => deferralShape.members (id, reason)

/-- The key of a mutation's kind. -/
def typeKey : String := "type"

/-- A mutation as an object. -/
def encode (m : Mutation) : Value :=
  .object ((typeKey, .str (Vocabulary.word m.kind)) :: m.payload)

/-! ### Reading -/

/-- Reads a kind that has no members: unknown ones are ignored, but items are not. -/
def decodeNothing : Document → Except ReadError Unit
  | .list (d :: items) =>
    .error (.data (.invalidLength (d :: items).length (elements 0 ++ " in sequence")))
  | _ => .ok ()

/-- Reads the members of a mutation of the given kind. -/
def decodePayload (d : Document) : MutationKind → Except ReadError Mutation
  | .assignOwner => (ownerShape.decode .whole d).map fun p => assignOwner p.1 p.2
  | .setElementStatus => (elementStatusShape.decode .whole d).map fun p => setElementStatus p.1 p.2
  | .approveAllPending => (decodeNothing d).map fun _ => approveAllPending
  | .setIssueStatus => (issueStatusShape.decode .whole d).map fun p => setIssueStatus p.1 p.2
  | .assignIssue => (assigneeShape.decode .whole d).map fun p => assignIssue p.1 p.2
  | .setPriority => (priorityShape.decode .whole d).map fun p => setPriority p.1 p.2
  | .acceptSuggestedPriority => (suggestionShape.decode .whole d).map acceptSuggestedPriority
  | .submitResolution =>
    (submissionShape.decode .whole d).map fun p => submitResolution p.1 p.2.1 p.2.2
  | .verifyResolution => (verificationShape.decode .whole d).map fun p => verifyResolution p.1 p.2
  | .recordAction => (actionShape.decode .whole d).map fun p => recordAction p.1 p.2
  | .acceptSuggestedActions => (decodeNothing d).map fun _ => acceptSuggestedActions
  | .linkBusinessTerms => (termsShape.decode .whole d).map fun p => linkBusinessTerms p.1 p.2
  | .deferBusinessTerms => (deferralShape.decode .whole d).map fun p => deferBusinessTerms p.1 p.2

/-- Takes the members of a mutation whole, the type apart. -/
def splitMembers (kind : Option MutationKind) :
    List (Document × Document) → Except ReadError (MutationKind × List (Document × Document))
  | [] =>
    match kind with
    | some kind => .ok (kind, [])
    | none => .error (.data (.missingField typeKey))
  | (k, d) :: rest => do
    let name ← ofSyntax k.key
    if name = typeKey then
      if kind.isSome then .error (.data (.duplicateField typeKey))
      else do
        let kind ← Codec.readWord d
        splitMembers (some kind) rest
    else do
      ofSyntax (d.check 1)
      let (kind, others) ← splitMembers kind rest
      .ok (kind, (k, d) :: others)

/-- Reads a mutation. -/
def decode : Document → Except ReadError Mutation
  | .object members => do
    let (kind, others) ← splitMembers none members
    decodePayload (.object others) kind
  | .list [] => .error (.data (.missingField typeKey))
  | .list (d :: items) => do
    let kind ← Codec.readWord d
    ofSyntax (Document.checkItems 1 items)
    decodePayload (.list items) kind
  | d => .error (mismatch "internally tagged enum Mutation" d)

/-- The codec of mutations. -/
def codec : Codec Mutation := ⟨encode, fun _ => decode⟩

/-- Reads the text of a mutation. -/
def ofText (text : String) : Except ReadError Mutation := codec.ofText text

end Mutation

end DataGovernance
