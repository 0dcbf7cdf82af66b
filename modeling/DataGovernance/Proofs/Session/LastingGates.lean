import DataGovernance.Proofs.Session.StatusHistory

/-!
# Gates that only open

Four gates ask for what is never taken back. An owner can be replaced but not removed, and so can
the action taken on a match; no status leads back to the one in which an issue is opened; linking a
node ends its deferral but leaves it with terms, and deferring it keeps them. So an operation adds
no entity to those that hold such a gate closed, and once the gate is open it stays open.

Key definitions: `Gate.lasting`.
Key theorems: `Session.Changes.blockingIds_sublist`, `Session.passed_run`, `Session.lasting_gates`.
-/

namespace DataGovernance

/-- The gates that ask for what is never taken back. -/
def Gate.lasting : List Gate := [ownership, reconciliationComplete, triageComplete, lineageLinking]

@[simp] theorem Gate.passed_report {gate : Gate} {s : Snapshot} :
    (gate.report s).passed = true ↔ gate.blockingIds s = [] := List.isEmpty_iff

/-! ### What a change does not take back -/

theorem ElementChange.hasOwner {m : Mutation} {e f : Element} (h : ElementChange m e f)
    (he : e.hasOwner = true) : f.hasOwner = true := by
  cases h with
  | owner o e ho => rfl
  | status t e ht => exact he
  | approved e hs => exact he

theorem MatchChange.isPending {m : Mutation} {a b : Match} (h : MatchChange m a b)
    (hb : b.isPending = true) : a.isPending = true := by
  cases h with
  | action act a => simp [Match.isPending] at hb
  | suggestion a ha => simp [Match.isPending, ha]

theorem NodeChange.isLinkedOrDeferred {m : Mutation} {a b : Node} (h : NodeChange m a b) :
    b.isLinkedOrDeferred = true := by
  cases h with
  | linked terms a ht => simpa [Node.isLinkedOrDeferred] using ht
  | deferred reason a hr => simp [Node.isLinkedOrDeferred]

/-! ### The gates -/

namespace Session

variable {σ τ : Session}

/-- No change of a session adds to what holds a lasting gate closed. -/
theorem Changes.blockingIds_sublist (h : Changes σ τ) {gate : Gate} (hg : gate ∈ Gate.lasting) :
    List.Sublist (gate.blockingIds τ.snapshot) (gate.blockingIds σ.snapshot) := by
  simp only [Gate.lasting, List.mem_cons, List.not_mem_nil, or_false] at hg
  rcases hg with rfl | rfl | rfl | rfl
  · refine h.elements.filter_map_sublist (fun e f ⟨_, hef⟩ => hef.id_eq) fun e f ⟨_, hef⟩ hf => ?_
    by_contra he
    simp [hef.hasOwner (by simpa using he)] at hf
  · exact h.reconciliation.filter_map_sublist (fun a b ⟨_, hab⟩ => hab.id_eq)
      fun a b ⟨_, hab⟩ => hab.isPending
  · refine h.issues.filter_map_sublist (fun i j ⟨_, _, hij⟩ => hij.id_eq)
      fun i j ⟨_, _, hij⟩ hj => ?_
    simpa using hij.follows.of_opened (by simpa using hj)
  · refine h.nodes.filter_map_sublist (fun a b ⟨_, hab⟩ => hab.id_eq) fun a b ⟨_, hab⟩ hb => ?_
    simp [hab.isLinkedOrDeferred] at hb

/-- A lasting gate that is open stays open. -/
theorem passed_run {gate : Gate} (hg : gate ∈ Gate.lasting) (ops : List Operation)
    (h : (gate.report σ.snapshot).passed = true) :
    (gate.report (σ.run ops).snapshot).passed = true := by
  refine run_induction (P := fun τ => (gate.report τ.snapshot).passed = true) ?_ ops h
  intro σ op τ ht hσ
  have hsub := ht.changes.blockingIds_sublist hg
  rw [Gate.passed_report] at hσ ⊢
  rw [hσ] at hsub
  exact List.eq_nil_of_sublist_nil hsub

/-- **Four gates only ever open.** An operation that succeeds leaves those that hold such a gate
closed as they are or takes some of them away, and a gate that is open in one state of a run is
open in every later one. -/
theorem lasting_gates {gate : Gate} (hg : gate ∈ Gate.lasting) :
    (∀ (σ τ : Session) (op : Operation), σ.perform op = .ok τ →
      List.Sublist (gate.report τ.snapshot).blockingIds (gate.report σ.snapshot).blockingIds) ∧
    (∀ (σ : Session) (ops more : List Operation), (gate.report (σ.run ops).snapshot).passed = true →
      (gate.report (σ.run (ops ++ more)).snapshot).passed = true) := by
  constructor
  · intro σ τ op h
    exact (perform_eq_ok_iff.1 h).changes.blockingIds_sublist hg
  · intro σ ops more h
    rw [run_append]
    exact passed_run hg more h

/-- The linking of both nodes is deferred. -/
def deferrals : List Operation := [
  .apply (.deferBusinessTerms "a" "no glossary") .epoch,
  .apply (.deferBusinessTerms "b" "no glossary") .epoch]

/-- A node whose linking was deferred is linked, which ends its deferral. -/
def linking : Operation := .apply (.linkBusinessTerms "a" ["exposure", " "]) .epoch

theorem lasting_gates_joined :
    Gate.lineageLinking ∈ Gate.lasting ∧
      (∃ τ, perform ⟨joined, {}⟩ linking = .ok τ ∧
        List.Sublist (Gate.lineageLinking.report τ.snapshot).blockingIds
          (Gate.lineageLinking.report joined).blockingIds) ∧
      (Gate.lineageLinking.report (run ⟨joined, {}⟩ deferrals).snapshot).passed = true ∧
      (Gate.lineageLinking.report (run ⟨joined, {}⟩ (deferrals ++ [linking])).snapshot).passed =
        true := by
  have hg : Gate.lineageLinking ∈ Gate.lasting := by decide
  have hlink : perform ⟨joined, {}⟩ linking = .ok (after ⟨joined, {}⟩ linking) := by decide
  have hopen :
      (Gate.lineageLinking.report (run ⟨joined, {}⟩ deferrals).snapshot).passed = true := by decide
  obtain ⟨hstep, hrun⟩ := lasting_gates hg
  exact ⟨hg, ⟨_, hlink, hstep _ _ _ hlink⟩, hopen, hrun _ _ _ hopen⟩

end Session

end DataGovernance
