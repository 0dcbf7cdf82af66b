import DataGovernance.Proofs.Session.LastingGates
import Mathlib.Data.List.Induction

/-!
# Steps are left through their gates

A cycle moves one step at a time, and forward only when the gate of its step is open. Going back is
free, and a mutation may close a gate that the cycle has passed. Still, to stand behind a step the
cycle must have crossed it, and the only way across is an advance from that step while its gate was
open. If the gate is a lasting one, it has been open ever since.

Key definitions: `Session.LeftThrough`.
Key theorems: `Session.Transition.step_cases`, `Session.leftThrough_run`, `Session.run_gates`.
-/

namespace DataGovernance

namespace Session

variable {σ τ : Session} {op : Operation}

/-- A transition goes one step forward through the gate, goes one step back or stays. -/
theorem Transition.step_cases (h : Transition σ op τ) :
    (op = .advance ∧ σ.step.next? = some τ.step ∧ ∀ r ∈ σ.exitGate, r.passed = true) ∨
      σ.step.previous? = some τ.step ∨ τ.step = σ.step := by
  cases h with
  | advanced next hn hg => exact .inl ⟨rfl, hn, hg⟩
  | wentBack previous hp => exact .inr (.inl hp)
  | applied m now s hm =>
    exact .inr (.inr (congrArg Progress.step (Mutation.effect_of_perform hm).progress_eq))

/-- Some advance of a run left a step, and the gate was open then. -/
def LeftThrough (σ : Session) (ops : List Operation) (g : Step) (gate : Gate) : Prop :=
  ∃ done rest next, ops = done ++ .advance :: rest ∧ (σ.run done).step = g ∧
    (gate.report (σ.run done).snapshot).passed = true ∧ g.next? = some next ∧
    (σ.run done).advance = .ok ((σ.run done).moveTo next)

theorem LeftThrough.append {ops : List Operation} {g : Step} {gate : Gate}
    (h : σ.LeftThrough ops g gate) (more : List Operation) :
    σ.LeftThrough (ops ++ more) g gate := by
  obtain ⟨done, rest, next, rfl, h⟩ := h
  exact ⟨done, rest ++ more, next, by simp, h⟩

/-- What lies before the cycle and did not lie before it at the start has been left through its
gate. -/
theorem leftThrough_run (σ : Session) {g : Step} {gate : Gate} (hg : Gate.guarding g = some gate)
    (hstart : σ.step.position ≤ g.position) (ops : List Operation) :
    g.position < (σ.run ops).step.position → σ.LeftThrough ops g gate := by
  induction ops using List.reverseRecOn with
  | nil =>
    intro hlt
    exact absurd hlt (Nat.not_lt.2 hstart)
  | append_singleton ops op ih =>
    intro hlt
    rw [run_append, run_cons, run_nil] at hlt
    rcases after_cases (σ.run ops) op with he | ht
    · rw [he] at hlt
      exact (ih hlt).append [op]
    · rcases ht.step_cases with ⟨rfl, hn, hpass⟩ | hp | he
      · have hpos := Step.position_of_next? hn
        by_cases hbefore : g.position < (σ.run ops).step.position
        · exact (ih hbefore).append [.advance]
        · -- the last operation is the advance that leaves the step
          have hstep : (σ.run ops).step = g := Step.position_inj (by omega)
          have hreport : gate.report (σ.run ops).snapshot ∈ (σ.run ops).exitGate := by
            simp [exitGate, hstep, hg]
          exact ⟨ops, [], _, rfl, hstep, hpass _ hreport, hstep ▸ hn,
            advance_eq_ok_iff.2 ⟨_, hn, hpass, rfl⟩⟩
      · have hpos := Step.position_of_previous? hp
        exact (ih (by omega)).append [op]
      · rw [he] at hlt
        exact (ih hlt).append [op]

/-- A lasting gate through which a step was left is still open. -/
theorem LeftThrough.passed {ops : List Operation} {g : Step} {gate : Gate}
    (h : σ.LeftThrough ops g gate) (hgate : gate ∈ Gate.lasting) :
    (gate.report (σ.run ops).snapshot).passed = true := by
  obtain ⟨done, rest, next, rfl, -, hpass, -⟩ := h
  rw [run_append]
  exact passed_run hgate (.advance :: rest) hpass

/-- **No gate is ever skipped.** In every state of a run from the first step, each guarded step
before the current one has been left by an advance while its gate was open; and if the step was one
of the four whose gates are lasting, its gate is open in that state, too. -/
theorem run_gates (hσ : σ.step = .scoringReview) (ops : List Operation) {g : Step} {gate : Gate}
    (hg : Gate.guarding g = some gate) (hlt : g.position < (σ.run ops).step.position) :
    σ.LeftThrough ops g gate ∧
      (g ∈ [.ownershipAssignment, .reconciliation, .triage, .businessTermLinking] →
        (gate.report (σ.run ops).snapshot).passed = true) := by
  have hstart : σ.step.position ≤ g.position := by
    rw [hσ]
    exact Nat.zero_le _
  have hleft := leftThrough_run σ hg hstart ops hlt
  refine ⟨hleft, fun hmem => hleft.passed ?_⟩
  revert hg hmem
  cases g <;> cases gate <;> decide

/-- Triage is refused to be left, is left, taken up again and left again. -/
def detour : List Operation := [
  .advance, .advance, .advance, .advance, .advance,
  .apply (.setIssueStatus "i" .triaged) .epoch,
  .advance, .back, .advance,
  .apply (.setIssueStatus "i" .resolving) .epoch]

theorem run_gates_joined :
    (⟨joined, {}⟩ : Session).step = .scoringReview ∧
      Gate.guarding .triage = some .triageComplete ∧
      Step.triage.position < (run ⟨joined, {}⟩ detour).step.position ∧
      LeftThrough ⟨joined, {}⟩ detour .triage .triageComplete ∧
      (Gate.triageComplete.report (run ⟨joined, {}⟩ detour).snapshot).passed = true := by
  have hstart : (⟨joined, {}⟩ : Session).step = .scoringReview := rfl
  have hguard : Gate.guarding .triage = some .triageComplete := rfl
  have hbehind : Step.triage.position < (run ⟨joined, {}⟩ detour).step.position := by decide
  obtain ⟨hleft, hopen⟩ := run_gates hstart detour hguard hbehind
  exact ⟨hstart, hguard, hbehind, hleft, hopen (by decide)⟩

end Session

end DataGovernance
