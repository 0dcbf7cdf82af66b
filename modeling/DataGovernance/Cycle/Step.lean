import DataGovernance.Vocabulary

/-!
# Phases and steps of a cycle

A cycle goes through twelve steps in order. The steps fall into four phases, the last of which is
the single step `complete`.

Key definitions: `Phase`, `Step`, `Step.position`, `Step.next?`, `Step.previous?`, `Step.phase`.
Key theorems: `Step.position_of_next?`, `Step.position_of_previous?`, `Step.position_inj`,
`Step.previous?_of_next?`.
-/

namespace DataGovernance

/-- A phase of a cycle. -/
inductive Phase where
  | cdeIdentification
  | issueManagement
  | lineageMapping
  | complete
  deriving DecidableEq, Repr

instance : Vocabulary Phase where
  members := [.cdeIdentification, .issueManagement, .lineageMapping, .complete]
  word
    | .cdeIdentification => "cde_identification"
    | .issueManagement => "issue_management"
    | .lineageMapping => "lineage_mapping"
    | .complete => "complete"
  mem_members a := by cases a <;> decide
  nodup_words := by decide

/-- A step of a cycle. -/
inductive Step where
  | scoringReview
  | inventoryApproval
  | ownershipAssignment
  | reconciliation
  | triage
  | resolution
  | verification
  | pipelineScan
  | businessTermLinking
  | impactAnalysis
  | lineageApproval
  | complete
  deriving DecidableEq, Repr

instance : Vocabulary Step where
  members :=
    [.scoringReview, .inventoryApproval, .ownershipAssignment, .reconciliation, .triage,
      .resolution, .verification, .pipelineScan, .businessTermLinking, .impactAnalysis,
      .lineageApproval, .complete]
  word
    | .scoringReview => "scoring_review"
    | .inventoryApproval => "inventory_approval"
    | .ownershipAssignment => "ownership_assignment"
    | .reconciliation => "reconciliation"
    | .triage => "triage"
    | .resolution => "resolution"
    | .verification => "verification"
    | .pipelineScan => "pipeline_scan"
    | .businessTermLinking => "business_term_linking"
    | .impactAnalysis => "impact_analysis"
    | .lineageApproval => "lineage_approval"
    | .complete => "complete"
  mem_members a := by cases a <;> decide
  nodup_words := by decide

namespace Step

/-- The steps in order. -/
def order : List Step := Vocabulary.members

/-- The position of a step in the order. -/
def position (s : Step) : Nat := order.idxOf s

/-- The step after a step. -/
def next? (s : Step) : Option Step := order[s.position + 1]?

/-- The step before a step. -/
def previous? (s : Step) : Option Step :=
  match s.position with
  | 0 => none
  | n + 1 => order[n]?

theorem nodup_order : order.Nodup := by decide

/-- The next step stands one place further on. -/
theorem position_of_next? {s t : Step} (h : s.next? = some t) : t.position = s.position + 1 := by
  obtain ⟨hlt, rfl⟩ := List.getElem?_eq_some_iff.1 h
  exact nodup_order.idxOf_getElem _ hlt

/-- The previous step stands one place further back. -/
theorem position_of_previous? {s t : Step} (h : s.previous? = some t) :
    t.position + 1 = s.position := by
  unfold previous? at h
  split at h
  · cases h
  · rename_i n hn
    obtain ⟨hlt, rfl⟩ := List.getElem?_eq_some_iff.1 h
    rw [hn]
    exact congrArg (· + 1) (nodup_order.idxOf_getElem _ hlt)

theorem getElem?_position (s : Step) : order[s.position]? = some s :=
  List.getElem?_eq_some_iff.2
    ⟨List.idxOf_lt_length_iff.2 (Vocabulary.mem_members s), List.getElem_idxOf _⟩

theorem position_inj {s t : Step} (h : s.position = t.position) : s = t := by
  have hs := getElem?_position s
  rw [h, getElem?_position t] at hs
  exact (Option.some.inj hs).symm

/-- Going back leads to where the next step was taken from. -/
theorem previous?_of_next? {s t : Step} (h : s.next? = some t) : t.previous? = some s := by
  rw [previous?, position_of_next? h]
  exact getElem?_position s

/-- The phase that a step belongs to. -/
def phase : Step → Phase
  | scoringReview | inventoryApproval | ownershipAssignment | reconciliation => .cdeIdentification
  | triage | resolution | verification => .issueManagement
  | pipelineScan | businessTermLinking | impactAnalysis | lineageApproval => .lineageMapping
  | complete => .complete

end Step

end DataGovernance
