import DataGovernance.Proofs.Session.StatusByHand

/-!
# Resolutions of issues that have been handed over

An issue that waits for verification, is verified or is closed has been handed over. A submission
hands over only with a resolution that keeps the rules, and no later operation takes the resolution
away. But the status of an issue that is being resolved may also be set by hand, and then nobody
looks at its resolution. So resolutions of issues that have been handed over keep the rules
throughout a run exactly when no operation of the run hands an issue over in that way.

Key definitions: `IssueStatus.IsHandedOver`, `Session.HandOversChecked`, `Session.SkipsCheck`.
Key theorems: `Session.after_handOversChecked_iff`, `Session.run_handOversChecked_iff`.
-/

namespace DataGovernance

/-- An issue in this state has left the hands of those who resolve it. -/
def IssueStatus.IsHandedOver (t : IssueStatus) : Prop :=
  t = .pendingVerification ∨ t = .verified ∨ t = .closed

/-- An issue has a resolution that keeps the rules. -/
def Issue.HasValidResolution (rules : ResolutionRules) (i : Issue) : Prop :=
  ∃ r, i.resolution = some r ∧ rules.accepts r = true

/-- An issue that has been handed over has a resolution that keeps the rules. -/
def Issue.HandOverChecked (rules : ResolutionRules) (i : Issue) : Prop :=
  i.status.IsHandedOver → i.HasValidResolution rules

namespace Session

/-- Every issue that has been handed over has a resolution that keeps the rules. -/
def HandOversChecked (σ : Session) : Prop :=
  ∀ i ∈ σ.snapshot.issues, i.HandOverChecked σ.rules

/-- The operation sets the status of an issue that is being resolved to the one behind the
hand-over, and the issue has no resolution that keeps the rules. -/
def SkipsCheck (σ : Session) (op : Operation) : Prop :=
  ∃ id now i, op = .apply (.setIssueStatus id .pendingVerification) now ∧
    σ.snapshot.issues.find? (fun j => j.id == id) = some i ∧
    i.status = .resolving ∧ ¬i.HasValidResolution σ.rules

end Session

/-- Besides setting the status to the one behind the hand-over, nothing hands an issue over without
a check. -/
theorem IssueChange.handOverChecked {rules : ResolutionRules} {now : Time.Timestamp} {m : Mutation}
    {i j : Issue} (h : IssueChange rules now m i j)
    (hm : ∀ id, m ≠ .setIssueStatus id .pendingVerification) (hi : i.HandOverChecked rules) :
    j.HandOverChecked rules := by
  intro hj
  cases h with
  | status t i ht =>
    have hnot : t ≠ .pendingVerification := fun he => hm i.id (he ▸ rfl)
    refine hi ?_
    -- what comes after the hand-over is only reached from behind it
    rcases hj with hj | rfl | rfl
    · exact absurd hj hnot
    · cases hs : i.status <;> simp_all [IssueStatus.next, IssueStatus.IsHandedOver]
    · cases hs : i.status <;> simp_all [IssueStatus.next, IssueStatus.IsHandedOver]
  | assignee name i hn => exact hi hj
  | priority p i => exact hi hj
  | suggestion p i hp ht => simp [IssueStatus.IsHandedOver] at hj
  | handedOver r time i hr his => exact ⟨r, rfl, hr⟩
  | accepted i his => exact hi (.inl his)
  | sentBack i his => simp [IssueStatus.IsHandedOver] at hj

namespace Session

variable {σ : Session} {op : Operation}

/-- To skip the check is to set the status against what is checked. -/
theorem skipsCheck_iff (hσ : σ.HandOversChecked) :
    σ.SkipsCheck op ↔
      σ.SetsAgainst (Issue.HandOverChecked σ.rules) .pendingVerification op := by
  constructor
  · rintro ⟨id, now, i, rfl, hfind, hi, hbad⟩
    have hfollows : i.status.Follows .pendingVerification := by
      rw [hi]
      decide
    exact ⟨id, now, i, rfl, hfind, hfollows, fun h => hbad (h (.inl rfl))⟩
  · rintro ⟨id, now, i, rfl, hfind, ht, hbad⟩
    have hinvalid : ¬i.HasValidResolution σ.rules := fun h => hbad fun _ => h
    refine ⟨id, now, i, rfl, hfind, ?_, hinvalid⟩
    -- an issue that already waits for verification has been checked
    have hnot : i.status ≠ .pendingVerification := fun hi =>
      hinvalid (hσ i (List.mem_of_find?_eq_some hfind) (.inl hi))
    revert ht hnot
    cases i.status <;> decide

/-- One operation keeps the resolutions checked exactly when it does not skip the check. -/
theorem after_handOversChecked_iff (hσ : σ.HandOversChecked) (op : Operation) :
    (σ.after op).HandOversChecked ↔ ¬σ.SkipsCheck op := by
  rw [skipsCheck_iff hσ, ← after_forall_issues_iff (fun h => h.handOverChecked) hσ op,
    HandOversChecked, after_rules]

/-- **Hand-overs are checked unless an operation skips the check.** From a session in which every
issue that has been handed over has a resolution that keeps the rules, this is so in every state of
a run exactly when no operation of the run skips the check. -/
theorem run_handOversChecked_iff {σ : Session} (hσ : σ.HandOversChecked) (ops : List Operation) :
    (∀ done, done <+: ops → (σ.run done).HandOversChecked) ↔
      ∀ done op, done ++ [op] <+: ops → ¬(σ.run done).SkipsCheck op :=
  forall_run_iff (fun σ op hσ => after_handOversChecked_iff (σ := σ) hσ op) hσ ops

/-- A session with an issue that is being resolved and has no resolution yet. -/
def unresolved : Session where
  snapshot := {
    issues := [
      { id := "i", title := "", severity := .low, status := .resolving, createdAt := .epoch }] }
  rules := {}

theorem handOversChecked_unresolved : unresolved.HandOversChecked := by
  simp [HandOversChecked, unresolved, Issue.HandOverChecked, IssueStatus.IsHandedOver]

theorem skipsCheck_unresolved (now : Time.Timestamp) :
    unresolved.SkipsCheck (.apply (.setIssueStatus "i" .pendingVerification) now) :=
  ⟨"i", now, _, rfl, rfl, rfl, by simp [Issue.HasValidResolution]⟩

/-- A steward who sets the status by hand is not asked for a resolution, so not every run keeps
hand-overs checked. -/
theorem not_run_handOversChecked :
    ¬∀ σ : Session, σ.HandOversChecked → ∀ ops, (σ.run ops).HandOversChecked := by
  intro h
  have hrun := h unresolved handOversChecked_unresolved
    [.apply (.setIssueStatus "i" .pendingVerification) .epoch]
  exact absurd (skipsCheck_unresolved .epoch)
    ((after_handOversChecked_iff handOversChecked_unresolved _).1 hrun)

/-- A session with an issue that is being resolved and one that waits for verification. -/
def underResolution : Session where
  snapshot := {
    issues := [
      { id := "i", title := "", severity := .low, status := .resolving, createdAt := .epoch },
      { id := "j"
        title := ""
        severity := .high
        status := .pendingVerification
        createdAt := .epoch
        resolution := some { resolutionType := some .systemFix, description := "patched" } }] }
  rules := { minDescriptionChars := 5, minEvidence := 0 }

theorem handOversChecked_underResolution : underResolution.HandOversChecked := by
  intro i hi hover
  simp only [underResolution, List.mem_cons, List.not_mem_nil, or_false] at hi
  rcases hi with rfl | rfl
  · simp [IssueStatus.IsHandedOver] at hover
  · exact ⟨_, rfl, by decide⟩

/-- One issue is submitted, sent back, which leaves it its resolution, and then handed over by hand.
The other one is verified and closed. -/
def resolutionRun : List Operation :=
  [.apply (.submitResolution "i"
      { resolutionType := some .dataCorrection, description := "refilled" } none) .epoch,
    .apply (.verifyResolution "i" false) .epoch,
    .apply (.setIssueStatus "i" .pendingVerification) .epoch,
    .apply (.verifyResolution "j" true) .epoch,
    .apply (.setIssueStatus "j" .closed) .epoch]

theorem not_skipsCheck_resolutionRun {done : List Operation} {op : Operation}
    (h : done ++ [op] <+: resolutionRun) : ¬(underResolution.run done).SkipsCheck op := by
  rintro ⟨id, now, i, rfl, hfind, -, hbad⟩
  obtain ⟨rest, h⟩ := h
  -- only the third operation sets a status to the one behind the hand-over
  rcases done with _ | ⟨a, _ | ⟨b, _ | ⟨c, _ | ⟨d, _ | ⟨e, done⟩⟩⟩⟩⟩ <;>
    simp [resolutionRun] at h
  obtain ⟨rfl, rfl, ⟨rfl, rfl⟩, -⟩ := h
  obtain rfl := Option.some.inj hfind
  exact hbad ⟨_, rfl, by decide⟩

/-- The status of the first issue is set by hand, but its resolution has been checked before. -/
theorem run_handOversChecked_iff_underResolution :
    underResolution.HandOversChecked ∧
      (∀ done op, done ++ [op] <+: resolutionRun → ¬(underResolution.run done).SkipsCheck op) ∧
      (∀ done, done <+: resolutionRun → (underResolution.run done).HandOversChecked) ∧
      (underResolution.run resolutionRun).snapshot.issues.map Issue.status =
        [.pendingVerification, .closed] := by
  have hrun := run_handOversChecked_iff handOversChecked_underResolution resolutionRun
  have hnot : ∀ done op, done ++ [op] <+: resolutionRun →
      ¬(underResolution.run done).SkipsCheck op := fun _ _ => not_skipsCheck_resolutionRun
  exact ⟨handOversChecked_underResolution, hnot, hrun.2 hnot, by decide⟩

end Session

end DataGovernance
