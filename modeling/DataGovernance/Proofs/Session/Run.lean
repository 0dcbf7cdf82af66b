import DataGovernance.Proofs.Mutation.Effect
import DataGovernance.Session.Basic
import Mathlib.Data.List.Induction

/-!
# Runs of a session

A run performs operations one after another, the failing ones included. `Transition` says once what
an operation that succeeds does to a session, and a property that every transition keeps holds after
every run.

Key definitions: `Session.Transition`, `Session.run`.
Key theorems: `Session.perform_eq_ok_iff`, `Session.run_induction`, `Session.forall_run_iff`.
-/

namespace DataGovernance

namespace Session

/-- What an operation that succeeds makes of a session. -/
inductive Transition (σ : Session) : Operation → Session → Prop
  | advanced (next : Step) (hn : σ.step.next? = some next)
    (hg : ∀ r ∈ σ.exitGate, r.passed = true) : Transition σ .advance (σ.moveTo next)
  | wentBack (previous : Step) (hp : σ.step.previous? = some previous) :
    Transition σ .back (σ.moveTo previous)
  | applied (m : Mutation) (now : Time.Timestamp) (s : Snapshot)
    (hm : m.perform σ.rules now σ.snapshot = .ok s) :
    Transition σ (.apply m now) { σ with snapshot := { s with version := s.version + 1 } }

theorem advance_eq_ok_iff {σ τ : Session} : σ.advance = .ok τ ↔
    ∃ next, σ.step.next? = some next ∧ (∀ r ∈ σ.exitGate, r.passed = true) ∧
      τ = σ.moveTo next := by
  unfold advance
  cases σ.step.next? with
  | none => simp
  | some next =>
    cases σ.exitGate with
    | none => simp [@eq_comm _ τ]
    | some r => by_cases hr : r.passed = true <;> simp [hr, @eq_comm _ τ]

theorem back_eq_ok_iff {σ τ : Session} : σ.back = .ok τ ↔
    ∃ previous, σ.step.previous? = some previous ∧ τ = σ.moveTo previous := by
  unfold back
  cases σ.step.previous? <;> simp [@eq_comm _ τ]

theorem apply_eq_ok_iff {σ τ : Session} {m : Mutation} {now : Time.Timestamp} :
    σ.apply m now = .ok τ ↔ ∃ s, m.perform σ.rules now σ.snapshot = .ok s ∧
      τ = { σ with snapshot := { s with version := s.version + 1 } } := by
  unfold apply
  cases m.perform σ.rules now σ.snapshot <;> simp [@eq_comm _ τ]

/-- An operation succeeds exactly by a transition. -/
theorem perform_eq_ok_iff {σ τ : Session} {op : Operation} :
    σ.perform op = .ok τ ↔ Transition σ op τ := by
  constructor
  · intro h
    cases op with
    | advance =>
      obtain ⟨next, hn, hg, rfl⟩ := advance_eq_ok_iff.1 h
      exact .advanced next hn hg
    | back =>
      obtain ⟨previous, hp, rfl⟩ := back_eq_ok_iff.1 h
      exact .wentBack previous hp
    | apply m now =>
      obtain ⟨s, hm, rfl⟩ := apply_eq_ok_iff.1 h
      exact .applied m now s hm
  · intro h
    cases h with
    | advanced next hn hg => exact advance_eq_ok_iff.2 ⟨next, hn, hg, rfl⟩
    | wentBack previous hp => exact back_eq_ok_iff.2 ⟨previous, hp, rfl⟩
    | applied m now s hm => exact apply_eq_ok_iff.2 ⟨s, hm, rfl⟩

theorem Transition.rules_eq {σ τ : Session} {op : Operation} (h : Transition σ op τ) :
    τ.rules = σ.rules := by
  cases h <;> rfl

/-- After an operation the session is the same or has made a transition. -/
theorem after_cases (σ : Session) (op : Operation) :
    σ.after op = σ ∨ Transition σ op (σ.after op) := by
  unfold after
  split
  · exact .inr (perform_eq_ok_iff.1 ‹_›)
  · exact .inl rfl

/-- Whichever operation it was, in each collection every entity is the one it was or is changed as
some mutation may change it. -/
structure Changes (σ τ : Session) : Prop where
  elements : Altered (fun e f => ∃ m, ElementChange m e f) σ.snapshot.elements τ.snapshot.elements
  issues : Altered (fun i j => ∃ now m, IssueChange σ.rules now m i j) σ.snapshot.issues
    τ.snapshot.issues
  reconciliation : Altered (fun a b => ∃ m, MatchChange m a b) σ.snapshot.reconciliation
    τ.snapshot.reconciliation
  nodes : Altered (fun a b => ∃ m, NodeChange m a b) σ.snapshot.lineage.nodes
    τ.snapshot.lineage.nodes

theorem Transition.changes {σ τ : Session} {op : Operation} (h : Transition σ op τ) :
    Changes σ τ := by
  cases h with
  | advanced next _ _ => exact ⟨.refl _, .refl _, .refl _, .refl _⟩
  | wentBack previous _ => exact ⟨.refl _, .refl _, .refl _, .refl _⟩
  | applied m now s hm =>
    cases Mutation.effect_of_perform hm with
    | elements es h => exact ⟨h.mono fun _ _ he => ⟨m, he⟩, .refl _, .refl _, .refl _⟩
    | issues is h => exact ⟨.refl _, h.mono fun _ _ hi => ⟨now, m, hi⟩, .refl _, .refl _⟩
    | reconciliation ms h => exact ⟨.refl _, .refl _, h.mono fun _ _ hm => ⟨m, hm⟩, .refl _⟩
    | nodes ns h => exact ⟨.refl _, .refl _, .refl _, h.mono fun _ _ hn => ⟨m, hn⟩⟩

/-! ### Runs -/

/-- The session after operations one after another. -/
def run (σ : Session) (ops : List Operation) : Session := ops.foldl after σ

@[simp] theorem run_nil (σ : Session) : σ.run [] = σ := rfl

@[simp] theorem run_cons (σ : Session) (op : Operation) (ops : List Operation) :
    σ.run (op :: ops) = (σ.after op).run ops := rfl

theorem run_append (σ : Session) (ops ops' : List Operation) :
    σ.run (ops ++ ops') = (σ.run ops).run ops' := List.foldl_append

/-- What every transition keeps holds after every run. -/
theorem run_induction {P : Session → Prop}
    (hP : ∀ σ op τ, Transition σ op τ → P σ → P τ) :
    ∀ (ops : List Operation) {σ : Session}, P σ → P (σ.run ops)
  | [], _, h => h
  | op :: ops, σ, h => by
    refine run_induction hP ops ?_
    rcases after_cases σ op with he | ht
    · rwa [he]
    · exact hP σ op _ ht h

/-- What exactly the faultless operations keep holds throughout a run exactly when every operation
of it is faultless at its point. -/
theorem forall_run_iff {P : Session → Prop} {Faulty : Session → Operation → Prop}
    (hstep : ∀ σ op, P σ → (P (σ.after op) ↔ ¬Faulty σ op)) {σ : Session} (hσ : P σ)
    (ops : List Operation) :
    (∀ done, done <+: ops → P (σ.run done)) ↔
      ∀ done op, done ++ [op] <+: ops → ¬Faulty (σ.run done) op := by
  have hlast : ∀ done op, σ.run (done ++ [op]) = (σ.run done).after op := by
    intro done op
    rw [run_append, run_cons, run_nil]
  constructor
  · intro h done op hop
    have hdone := h done ((List.prefix_append done [op]).trans hop)
    have hnext := h (done ++ [op]) hop
    rw [hlast] at hnext
    exact (hstep _ op hdone).1 hnext
  · intro h done
    -- on how much has been done, the last operation taken off
    induction done using List.reverseRecOn with
    | nil => exact fun _ => hσ
    | append_singleton done op ih =>
      intro hop
      have hdone := ih ((List.prefix_append done [op]).trans hop)
      rw [hlast]
      exact (hstep _ op hdone).2 (h done op hop)

/-- The rules stay the same. -/
@[simp] theorem run_rules (σ : Session) (ops : List Operation) : (σ.run ops).rules = σ.rules :=
  run_induction (P := fun τ => τ.rules = σ.rules) (fun _ _ _ ht h => ht.rules_eq.trans h) ops rfl

@[simp] theorem after_rules (σ : Session) (op : Operation) : (σ.after op).rules = σ.rules :=
  run_rules σ [op]

end Session

end DataGovernance
