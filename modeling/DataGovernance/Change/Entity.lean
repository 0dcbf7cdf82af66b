import DataGovernance.Element
import DataGovernance.Issue
import DataGovernance.Lineage.Basic
import DataGovernance.Reconciliation
import DataGovernance.Resolution

/-!
# Entities and the change of one of them

Four kinds of entities have ids and can be changed. A change addresses the first entity of its
collection that has the id; all others stay as they are. It fails when there is none, or when the
entity itself refuses it.

Key definitions: `EntityKind`, `Entity`, `ChangeError`, `changeFirst`.
-/

namespace DataGovernance

/-- The kinds of things that can be changed. -/
inductive EntityKind where
  | element
  | issue
  | reconciliationMatch
  | node
  deriving DecidableEq, Repr

instance : Vocabulary EntityKind where
  members := [.element, .issue, .reconciliationMatch, .node]
  word
    | .element => "cde"
    | .issue => "issue"
    | .reconciliationMatch => "reconciliation_match"
    | .node => "lineage_node"
  mem_members a := by cases a <;> decide
  nodup_words := by decide

/-- Things of a kind that are told apart by an id. -/
class Entity (α : Type) where
  kind : EntityKind
  id : α → String

instance : Entity Element := ⟨.element, Element.id⟩

instance : Entity Issue := ⟨.issue, Issue.id⟩

instance : Entity Match := ⟨.reconciliationMatch, Match.currentId⟩

instance : Entity Node := ⟨.node, Node.id⟩

/-- A text that must not be blank. -/
inductive NamedText where
  | ownerName
  | assignee
  | deferralReason
  deriving DecidableEq, Repr

/-- What a message calls a text. -/
def NamedText.name : NamedText → String
  | ownerName => "owner name"
  | assignee => "assignee"
  | deferralReason => "deferral reason"

/-- The ways in which a change can fail. -/
inductive ChangeError where
  | notFound (kind : EntityKind) (id : String)
  | elementStatus (id : String) (source target : ElementStatus)
  | issueStatus (id : String) (source target : IssueStatus)
  | blank (text : NamedText)
  | noSuggestedPriority (id : String)
  | noTerms
  | rejectedResolution (problems : List Problem)
  | duplicateId (kind : EntityKind) (id : String)
  deriving DecidableEq, Repr

namespace ChangeError

/-- The wording for a status that cannot follow another. -/
def statusMessage {α : Type} [Vocabulary α] (kind : EntityKind) (id : String) (source target : α) :
    String :=
  "Invalid state transition: " ++ Vocabulary.word kind ++ " " ++ id ++ " from " ++
    Vocabulary.word source ++ " to " ++ Vocabulary.word target

/-- The wording of a change error. -/
def message : ChangeError → String
  | notFound kind id => "Entity not found: " ++ Vocabulary.word kind ++ " " ++ id
  | elementStatus id source target => statusMessage .element id source target
  | issueStatus id source target => statusMessage .issue id source target
  | blank text => "Validation error: " ++ text.name ++ " must not be blank"
  | noSuggestedPriority id => "Validation error: issue " ++ id ++ " has no suggested priority"
  | noTerms => "Validation error: at least one business term is required"
  | rejectedResolution problems =>
    "Validation error: " ++ String.intercalate "; " (problems.map Problem.message)
  | duplicateId kind id =>
    "Validation error: duplicate " ++ Vocabulary.word kind ++ " id '" ++ id ++ "'"

end ChangeError

/-- Fails when a text is blank. -/
def requireText (text : NamedText) (s : String) : Except ChangeError Unit :=
  if Text.isBlank s then .error (.blank text) else .ok ()

variable {α : Type} [Entity α]

/-- Changes the first entity that has an id. -/
def changeFirst (id : String) (change : α → Except ChangeError α) :
    List α → Except ChangeError (List α)
  | [] => .error (.notFound (Entity.kind α) id)
  | a :: rest =>
    if Entity.id a = id then (change a).map (· :: rest)
    else (changeFirst id change rest).map (a :: ·)

end DataGovernance
