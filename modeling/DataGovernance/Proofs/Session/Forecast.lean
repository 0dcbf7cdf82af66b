import DataGovernance.Proofs.Session.Accepted
import DataGovernance.Proofs.Session.HandOver
import DataGovernance.Session.Report

/-!
# The status tells what an advance will do

The status of a session and an advance ask for the next step and for the gate of the current one
each by themselves, and put the two together in different ways. They come to the same: whether the
cycle may move on, where to, and what is in the way. The report that the status shows is also the
one that stands for its gate among all reports.

Key theorems: `Session.advance_eq_error_iff`, `Session.canAdvance_iff`,
`Session.filter_gateReports`, `Session.status_predicts_advance`.
-/

namespace DataGovernance

namespace Session

variable {σ : Session}

/-- An advance is refused at the last step, and else by the gate of the step. -/
theorem advance_eq_error_iff {e : SessionError} : σ.advance = .error e ↔
    σ.step.next? = none ∧ e = .complete ∨
      σ.step.next? ≠ none ∧
        ∃ r, σ.exitGate = some r ∧ r.passed = false ∧ e = .blocked σ.step r := by
  unfold advance
  cases σ.step.next? with
  | none => simp [@eq_comm _ e]
  | some next =>
    cases σ.exitGate with
    | none => simp
    | some r => cases hr : r.passed <;> simp [hr, @eq_comm _ e]

theorem advance_eq_error_complete_iff :
    σ.advance = .error .complete ↔ σ.status.nextStep = none := by
  simp [advance_eq_error_iff, status]

theorem advance_eq_error_blocked_iff {step : Step} {r : GateReport} :
    σ.advance = .error (.blocked step r) ↔ σ.status.nextStep ≠ none ∧
      step = σ.status.step ∧ σ.status.gate = some r ∧ r.passed = false := by
  rw [advance_eq_error_iff]
  constructor
  · rintro (⟨-, he⟩ | ⟨hn, r', hr, hp, he⟩)
    · cases he
    · cases he
      exact ⟨hn, rfl, hr, hp⟩
  · rintro ⟨hn, rfl, hr, hp⟩
    exact .inr ⟨hn, r, hr, hp, rfl⟩

/-- The cycle may move on exactly when an advance moves it on. -/
theorem canAdvance_iff : σ.status.canAdvance = true ↔ ∃ τ, σ.advance = .ok τ := by
  simp only [advance_eq_ok_iff, status, Bool.and_eq_true, Option.isSome_iff_exists,
    Option.all_eq_true]
  constructor
  · rintro ⟨⟨next, hn⟩, hg⟩
    exact ⟨_, next, hn, hg, rfl⟩
  · rintro ⟨τ, next, hn, hg, rfl⟩
    exact ⟨⟨next, hn⟩, hg⟩

/-- Among the reports of all gates there is one for each gate. -/
theorem filter_gateReports (σ : Session) (gate : Gate) :
    (σ.gateReports.filter fun r => r.gate == gate) = [gate.report σ.snapshot] := by
  have hone : ((Vocabulary.members : List Gate).filter fun g => g == gate) = [gate] := by
    cases gate <;> rfl
  rw [gateReports, List.filter_map]
  exact congrArg (List.map fun g : Gate => g.report σ.snapshot) hone

/-- The report that the status shows is the one for its gate among all reports. -/
theorem filter_gateReports_of_status {r : GateReport} (h : σ.status.gate = some r) :
    (σ.gateReports.filter fun r' => r'.gate == r.gate) = [r] := by
  obtain ⟨gate, -, rfl⟩ := Option.map_eq_some_iff.1 h
  exact filter_gateReports σ gate

/-- A run whose operations are all refused leads nowhere. -/
theorem run_of_accepted_eq_nil {ops : List Operation} (h : σ.accepted ops = []) :
    σ.run ops = σ := by
  have hall := performAll_accepted σ ops
  rw [h] at hall
  exact (Except.ok.inj hall).symm

/-- **The status tells what an advance will do.** The cycle may move on exactly when an advance
succeeds, and then it moves to the next step; at the last step, and only there, there is none; what
blocks an advance is the report of the status. The status shows the report that the list of all
reports and the dashboard have for that gate. Operations that are refused, however many, leave the
session and with it all these answers as they are. -/
theorem status_predicts_advance (σ : Session) :
    (σ.status.canAdvance = true ↔ ∃ τ, σ.advance = .ok τ) ∧
    (∀ τ, σ.advance = .ok τ → σ.status.nextStep = some τ.step) ∧
    (∀ step r, σ.advance = .error (.blocked step r) ↔ σ.status.nextStep ≠ none ∧
      step = σ.status.step ∧ σ.status.gate = some r ∧ r.passed = false) ∧
    (σ.advance = .error .complete ↔ σ.status.nextStep = none) ∧
    (∀ r, σ.status.gate = some r →
      (σ.gateReports.filter fun r' => r'.gate == r.gate) = [r] ∧
        (σ.dashboard.gates.filter fun r' => r'.gate == r.gate) = [r]) ∧
    ∀ refused, σ.accepted refused = [] → σ.run refused = σ := by
  refine ⟨canAdvance_iff, fun τ h => ?_, fun step r => advance_eq_error_blocked_iff,
    advance_eq_error_complete_iff, fun r hr => ?_, fun refused h => run_of_accepted_eq_nil h⟩
  · obtain ⟨next, hn, -, rfl⟩ := advance_eq_ok_iff.1 h
    exact hn
  · have hone := filter_gateReports_of_status hr
    exact ⟨hone, hone⟩

/-- A session that stands at the resolution of an issue that is not resolved. -/
def held : Session where
  snapshot := { unresolved.snapshot with progress := ⟨.resolution⟩ }
  rules := {}

/-- The report of what holds it there. -/
def heldReport : GateReport := ⟨.resolutionComplete, ["i"]⟩

/-- It cannot move on, and there is nothing to verify. -/
def heldRun : List Operation := [.advance, .apply (.verifyResolution "i" true) .epoch, .advance]

theorem status_predicts_advance_held :
    unresolved.status.canAdvance = true ∧
      (∃ τ, unresolved.advance = .ok τ ∧ τ.step = .inventoryApproval) ∧
      held.status.gate = some heldReport ∧
      held.advance = .error (.blocked .resolution heldReport) ∧
      (held.dashboard.gates.filter fun r => r.gate == .resolutionComplete) = [heldReport] ∧
      held.accepted heldRun = [] ∧ held.run heldRun = held := by
  have hgate : held.status.gate = some heldReport := by decide
  have hrefused : held.accepted heldRun = [] := by decide
  obtain ⟨hcan, hnext, -⟩ := status_predicts_advance unresolved
  obtain ⟨-, -, hblocked, -, hreports, hstays⟩ := status_predicts_advance held
  have hmay : unresolved.status.canAdvance = true := by decide
  obtain ⟨τ, hτ⟩ := hcan.1 hmay
  have hstep : some Step.inventoryApproval = some τ.step := hnext τ hτ
  exact ⟨hmay, ⟨τ, hτ, (Option.some.inj hstep).symm⟩, hgate,
    (hblocked _ _).2 ⟨by decide, rfl, hgate, rfl⟩, (hreports _ hgate).2, hrefused,
    hstays _ hrefused⟩

end Session

end DataGovernance
