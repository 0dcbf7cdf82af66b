import DataGovernance.Proofs.Session.Completion

/-!
# Operations that are refused leave no trace

An operation either succeeds and counts once, or is refused and changes nothing. So a run comes to
the same without the operations that it refuses: those that are left all succeed, the version has
grown by their number, and the position of the step by the advances among them less the steps back.
A step back right after an advance takes it back, but for the version.

Key definitions: `Session.accepted`.
Key theorems: `Session.performAll_accepted`, `Session.position_of_performAll`,
`Session.back_of_advance`, `Session.run_tally`.
-/

namespace DataGovernance

namespace Session

variable {σ τ : Session} {op : Operation}

/-- The operations of a run without those that are refused. -/
def accepted (σ : Session) : List Operation → List Operation
  | [] => []
  | op :: ops =>
    match σ.perform op with
    | .ok τ => op :: τ.accepted ops
    | .error _ => σ.accepted ops

/-- An operation that is refused changes nothing. -/
theorem after_of_error {e : SessionError} (h : σ.perform op = .error e) : σ.after op = σ := by
  rw [after, h]

theorem after_of_ok (h : σ.perform op = .ok τ) : σ.after op = τ := by
  rw [after, h]

/-- The operations that are not refused are operations of the run, in its order. -/
theorem accepted_sublist : ∀ (σ : Session) (ops : List Operation),
    List.Sublist (σ.accepted ops) ops
  | _, [] => .slnil
  | σ, op :: ops => by
    rw [accepted]
    cases σ.perform op with
    | ok τ => exact (accepted_sublist τ ops).cons_cons op
    | error e => exact (accepted_sublist σ ops).cons op

/-- Without those that are refused, the operations of a run all succeed and come to the same. -/
theorem performAll_accepted : ∀ (σ : Session) (ops : List Operation),
    σ.performAll (σ.accepted ops) = .ok (σ.run ops)
  | _, [] => rfl
  | σ, op :: ops => by
    rw [accepted, run_cons]
    cases hp : σ.perform op with
    | ok τ =>
      rw [after_of_ok hp]
      exact performAll_cons_eq_ok.2 ⟨τ, perform_eq_ok_iff.1 hp, performAll_accepted τ ops⟩
    | error e =>
      rw [after_of_error hp]
      exact performAll_accepted σ ops

/-- An advance moves one place forward, a step back one place back, and a mutation not at all. -/
theorem Transition.position_eq (h : Transition σ op τ) :
    τ.step.position + [op].count .back = σ.step.position + [op].count .advance := by
  cases h with
  | advanced next hn _ =>
    have hpos : (σ.moveTo next).step.position = σ.step.position + 1 := Step.position_of_next? hn
    rw [hpos]
    rfl
  | wentBack previous hp =>
    have hpos : (σ.moveTo previous).step.position + 1 = σ.step.position :=
      Step.position_of_previous? hp
    rw [← hpos]
    rfl
  | applied m now s hm =>
    have hstep : s.progress.step = σ.step :=
      congrArg Progress.step (Mutation.effect_of_perform hm).progress_eq
    change s.progress.step.position + 0 = σ.step.position + 0
    rw [hstep]

/-- Where operations that all succeed lead is told by how many advances and steps back there are. -/
theorem position_of_performAll : ∀ {ops : List Operation} {σ τ : Session},
    σ.performAll ops = .ok τ →
      τ.step.position + ops.count .back = σ.step.position + ops.count .advance
  | [], σ, τ, h => by
    cases h
    rfl
  | op :: ops, σ, υ, h => by
    obtain ⟨τ, ht, hrest⟩ := performAll_cons_eq_ok.1 h
    have hfirst := ht.position_eq
    have hlater := position_of_performAll hrest
    have hcount : ∀ a : Operation, ([op] ++ ops).count a = [op].count a + ops.count a :=
      fun _ => List.count_append
    rw [List.singleton_append] at hcount
    rw [hcount, hcount]
    omega

/-- A step back takes an advance back, but for the version. -/
theorem back_of_advance (h : σ.advance = .ok τ) :
    τ.back = .ok { σ with snapshot := { σ.snapshot with version := σ.version + 2 } } := by
  obtain ⟨next, hn, -, rfl⟩ := advance_eq_ok_iff.1 h
  have hp : (σ.moveTo next).step.previous? = some σ.step := Step.previous?_of_next? hn
  have htwo : σ.version + 1 + 1 = σ.version + 2 := by
    apply Fin.ext
    rw [Fin.val_add, Fin.val_add, Nat.mod_add_mod, Fin.val_add]
    rfl
  rw [back, hp]
  change Except.ok { σ with snapshot := { σ.snapshot with version := σ.version + 1 + 1 } } = _
  rw [htwo]

/-- **Operations that are refused leave no trace.** In every state of a run, an operation that is
refused changes nothing. The run comes to the same without such operations, and then all succeed.
The version has grown by their number as long as it has room for it, and the position of the step by
the advances among them less the steps back. An advance from there is taken back by a step back, but
for the version, which grows by two. -/
theorem run_tally (σ : Session) (ops : List Operation) :
    (∀ op e, (σ.run ops).perform op = .error e → σ.run (ops ++ [op]) = σ.run ops) ∧
      List.Sublist (σ.accepted ops) ops ∧
      σ.performAll (σ.accepted ops) = .ok (σ.run ops) ∧
      (σ.version.val + (σ.accepted ops).length < wordSize →
        (σ.run ops).version.val = σ.version.val + (σ.accepted ops).length) ∧
      (σ.run ops).step.position + (σ.accepted ops).count .back =
        σ.step.position + (σ.accepted ops).count .advance ∧
      ∀ τ, (σ.run ops).advance = .ok τ → τ.back = .ok { σ.run ops with
        snapshot := { (σ.run ops).snapshot with version := (σ.run ops).version + 2 } } := by
  have hall := performAll_accepted σ ops
  refine ⟨fun op e h => ?_, accepted_sublist σ ops, hall, fun hroom => ?_,
    position_of_performAll hall, fun τ h => back_of_advance h⟩
  · rw [run_append, run_cons, run_nil, after_of_error h]
  · rw [version_of_performAll hall]
    exact Nat.mod_eq_of_lt hroom

theorem run_tally_joined :
    (∃ e, perform ⟨joined, {}⟩ .back = .error e) ∧ run ⟨joined, {}⟩ [.back] = ⟨joined, {}⟩ ∧
      accepted ⟨joined, {}⟩ joinedRun =
        [.apply (.deferBusinessTerms "b" "next cycle") .epoch, .advance] ∧
      performAll ⟨joined, {}⟩ [.apply (.deferBusinessTerms "b" "next cycle") .epoch, .advance] =
        .ok (run ⟨joined, {}⟩ joinedRun) ∧
      (run ⟨joined, {}⟩ joinedRun).version.val = 2 := by
  have hback : perform ⟨joined, {}⟩ .back = .error .atFirst := by decide
  have haccepted : accepted ⟨joined, {}⟩ joinedRun =
      [.apply (.deferBusinessTerms "b" "next cycle") .epoch, .advance] := by decide
  obtain ⟨hrefused, -⟩ := run_tally ⟨joined, {}⟩ []
  obtain ⟨-, -, hall, hversion, -⟩ := run_tally ⟨joined, {}⟩ joinedRun
  rw [haccepted] at hall hversion
  exact ⟨⟨_, hback⟩, hrefused _ _ hback, haccepted, hall, hversion (by decide)⟩

end Session

end DataGovernance
