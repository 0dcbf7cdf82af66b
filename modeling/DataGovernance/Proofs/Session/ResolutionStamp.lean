import DataGovernance.Proofs.Session.StatusByHand
import DataGovernance.Summary

/-!
# Times of resolution on issues that are worked on

Handing an issue over stamps it with the time of its resolution, and a verifier who sends it back
takes the stamp away. But the status of an issue that waits for verification may also be set back by
hand, and then the stamp stays on an issue that is worked on again. Nothing else brings a stamp to
such an issue. So work bears no stamp throughout a run, and stays out of the mean time to
resolution, exactly when no operation of the run sets a stamped issue back by hand.

Key definitions: `Session.WorkUnstamped`, `Session.LeavesStamp`.
Key theorems: `Session.after_workUnstamped_iff`, `averageResolutionDays_filter`,
`Session.run_workUnstamped_iff`.
-/

namespace DataGovernance

/-! ### The way back to work -/

/-- Only an issue that waits for verification comes back to work, and then it is resolved anew. -/
theorem IssueStatus.Follows.isAtWork_or {t u : IssueStatus} (h : t.Follows u) (hu : u.IsAtWork) :
    t.IsAtWork ∨ (t = .pendingVerification ∧ u = .resolving) := by
  revert h hu
  cases t <;> cases u <;> decide

/-- An issue that is worked on bears no time of resolution. -/
def Issue.WorkUnstamped (i : Issue) : Prop := i.status.IsAtWork → i.resolvedAt = none

/-- Besides setting the status to the one of work on a resolution, nothing leaves a stamp on an
issue that is worked on. -/
theorem IssueChange.workUnstamped {rules : ResolutionRules} {now : Time.Timestamp} {m : Mutation}
    {i j : Issue} (h : IssueChange rules now m i j) (hm : ∀ id, m ≠ .setIssueStatus id .resolving)
    (hi : i.WorkUnstamped) : j.WorkUnstamped := by
  intro hj
  have hway := h.follows.isAtWork_or hj
  cases h with
  | status t i ht =>
    rcases hway with hwork | ⟨-, rfl⟩
    · exact hi hwork
    · exact absurd rfl (hm i.id)
  | assignee name i hn => exact hi hj
  | priority p i => exact hi hj
  | suggestion p i hp ht =>
    rcases hway with hwork | ⟨-, hresolving⟩
    · exact hi hwork
    · cases hresolving
  | handedOver r time i hr his =>
    exact absurd hj (by decide : ¬IssueStatus.pendingVerification.IsAtWork)
  | accepted i his => exact absurd hj (by decide : ¬IssueStatus.verified.IsAtWork)
  | sentBack i his => rfl

/-! ### The mean time to resolution -/

/-- Issues without a time of resolution do not count. -/
theorem averageResolutionDays_filter {issues : List Issue} {p : Issue → Bool}
    (h : ∀ i ∈ issues, p i = false → i.resolvedAt = none) :
    averageResolutionDays (issues.filter p) = averageResolutionDays issues := by
  have hspans : (issues.filter p).filterMap Issue.resolutionSeconds? =
      issues.filterMap Issue.resolutionSeconds? := by
    rw [List.filterMap_filter]
    refine List.filterMap_congr fun i hi => ?_
    by_cases hp : p i = true
    · rw [if_pos hp]
    · have hnone := h i hi (by simpa using hp)
      rw [if_neg hp, Issue.resolutionSeconds?, hnone]
  unfold averageResolutionDays
  rw [hspans]

namespace Session

/-- No issue that is worked on bears a time of resolution. -/
def WorkUnstamped (σ : Session) : Prop := ∀ i ∈ σ.snapshot.issues, i.WorkUnstamped

/-- The operation sets the status of an issue that waits for verification back to the one of work on
a resolution, and the issue bears a time of resolution. -/
def LeavesStamp (σ : Session) (op : Operation) : Prop :=
  ∃ id now i, op = .apply (.setIssueStatus id .resolving) now ∧
    σ.snapshot.issues.find? (fun j => j.id == id) = some i ∧
    i.status = .pendingVerification ∧ i.resolvedAt ≠ none

variable {σ : Session} {op : Operation}

/-- The mean time to resolution leaves work out if it bears no stamps. -/
theorem WorkUnstamped.averageResolutionDays_eq (h : σ.WorkUnstamped) :
    averageResolutionDays σ.snapshot.issues =
      averageResolutionDays (σ.snapshot.issues.filter fun i => ¬i.status.IsAtWork) :=
  (averageResolutionDays_filter fun i hi hp => h i hi (by simpa using hp)).symm

/-! ### Stamps over a run -/

/-- To leave a stamp is to set the status against the stamp. -/
theorem leavesStamp_iff (hσ : σ.WorkUnstamped) :
    σ.LeavesStamp op ↔ σ.SetsAgainst Issue.WorkUnstamped .resolving op := by
  constructor
  · rintro ⟨id, now, i, rfl, hfind, hi, hstamp⟩
    have hfollows : i.status.Follows .resolving := by
      rw [hi]
      decide
    have hwork : IssueStatus.resolving.IsAtWork := by decide
    exact ⟨id, now, i, rfl, hfind, hfollows, fun h => hstamp (h hwork)⟩
  · rintro ⟨id, now, i, rfl, hfind, ht, hbad⟩
    have hstamp : i.resolvedAt ≠ none := fun h => hbad fun _ => h
    refine ⟨id, now, i, rfl, hfind, ?_, hstamp⟩
    -- an issue that is already worked on bears no stamp
    rcases ht.isAtWork_or (by decide) with hwork | ⟨hwaits, -⟩
    · exact absurd (hσ i (List.mem_of_find?_eq_some hfind) hwork) hstamp
    · exact hwaits

/-- One operation keeps work free of stamps exactly when it does not leave one. -/
theorem after_workUnstamped_iff (hσ : σ.WorkUnstamped) (op : Operation) :
    (σ.after op).WorkUnstamped ↔ ¬σ.LeavesStamp op := by
  rw [leavesStamp_iff hσ, ← after_forall_issues_iff (fun h => h.workUnstamped) hσ op, WorkUnstamped]

/-- **Work bears no stamps unless an operation leaves one.** From a session in which no issue that
is worked on bears a time of resolution, this is so in every state of a run exactly when no
operation of the run leaves a stamp, and then none of these issues counts in the mean time to
resolution. -/
theorem run_workUnstamped_iff (hσ : σ.WorkUnstamped) (ops : List Operation) :
    ((∀ done, done <+: ops → (σ.run done).WorkUnstamped) ↔
      ∀ done op, done ++ [op] <+: ops → ¬(σ.run done).LeavesStamp op) ∧
    ((∀ done op, done ++ [op] <+: ops → ¬(σ.run done).LeavesStamp op) →
      ∀ done, done <+: ops →
        averageResolutionDays (σ.run done).snapshot.issues =
          averageResolutionDays
            ((σ.run done).snapshot.issues.filter fun i => ¬i.status.IsAtWork)) := by
  have hiff := forall_run_iff (fun σ op hσ => after_workUnstamped_iff (σ := σ) hσ op) hσ ops
  exact ⟨hiff, fun hn done hdone => (hiff.2 hn done hdone).averageResolutionDays_eq⟩

/-- A session with an issue that was handed over at the moment it was created. -/
def awaiting : Session where
  snapshot := {
    issues := [
      { id := "i"
        title := ""
        severity := .low
        status := .pendingVerification
        createdAt := .epoch
        resolvedAt := some .epoch }] }
  rules := {}

theorem workUnstamped_awaiting : awaiting.WorkUnstamped := by
  simp [WorkUnstamped, awaiting, Issue.WorkUnstamped, IssueStatus.IsAtWork]

theorem leavesStamp_awaiting (now : Time.Timestamp) :
    awaiting.LeavesStamp (.apply (.setIssueStatus "i" .resolving) now) :=
  ⟨"i", now, _, rfl, rfl, rfl, by simp⟩

/-- A steward who sets a status back by hand leaves the stamp, so not every run keeps work free of
stamps. -/
theorem not_run_workUnstamped :
    ¬∀ σ : Session, σ.WorkUnstamped → ∀ ops, (σ.run ops).WorkUnstamped := by
  intro h
  have hrun := h awaiting workUnstamped_awaiting
    [.apply (.setIssueStatus "i" .resolving) .epoch]
  exact absurd (leavesStamp_awaiting .epoch)
    ((after_workUnstamped_iff workUnstamped_awaiting _).1 hrun)

/-- The issue is sent back, which takes its stamp, and escalated. -/
def awaitingRun : List Operation :=
  [.apply (.verifyResolution "i" false) .epoch, .apply (.setIssueStatus "i" .escalated) .epoch]

theorem run_workUnstamped_iff_awaiting :
    awaiting.WorkUnstamped ∧
      (∀ done op, done ++ [op] <+: awaitingRun → ¬(awaiting.run done).LeavesStamp op) ∧
      (∀ done, done <+: awaitingRun → (awaiting.run done).WorkUnstamped) ∧
      averageResolutionDays (awaiting.run awaitingRun).snapshot.issues =
        averageResolutionDays
          ((awaiting.run awaitingRun).snapshot.issues.filter fun i => ¬i.status.IsAtWork) := by
  have hrun := run_workUnstamped_iff workUnstamped_awaiting awaitingRun
  have hnot : ∀ done op, done ++ [op] <+: awaitingRun → ¬(awaiting.run done).LeavesStamp op := by
    rintro done op hop ⟨id, now, i, rfl, -⟩
    have hmem := hop.subset (List.mem_append_right done List.mem_cons_self)
    simp [awaitingRun] at hmem
  exact ⟨workUnstamped_awaiting, hnot, hrun.1.2 hnot, hrun.2 hnot _ (List.prefix_refl _)⟩

end Session

end DataGovernance
