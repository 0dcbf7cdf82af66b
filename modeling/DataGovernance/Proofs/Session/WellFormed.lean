import DataGovernance.Proofs.Session.Run

/-!
# Reached snapshots stay well-formed

A session opens exactly on the snapshots whose entities have different ids and whose edges join
known nodes. No operation touches an id or an edge, so a session that has opened can be opened again
at any time, its lineage is always a graph, and the questions about a node or an issue are answered
for the ids that were there at the opening and for no others.

Key definitions: `Snapshot.WellFormed`, `Snapshot.SameIds`.
Key theorems: `Session.new_eq_ok_iff`, `Session.sameIds_run`,
`Session.run_reopens`.
-/

namespace DataGovernance

/-! ### Opening -/

/-- The entities of each collection have different ids and every edge joins nodes. -/
structure Snapshot.WellFormed (s : Snapshot) : Prop where
  elements : (s.elements.map Element.id).Nodup
  issues : (s.issues.map Issue.id).Nodup
  reconciliation : (s.reconciliation.map Match.currentId).Nodup
  nodes : (s.lineage.nodes.map Node.id).Nodup
  edges : ∀ e ∈ s.lineage.edges,
    e.source ∈ s.lineage.nodes.map Node.id ∧ e.target ∈ s.lineage.nodes.map Node.id

theorem checkIds_eq_ok_iff {α : Type} [Entity α] {as : List α} :
    checkIds as = .ok () ↔ (as.map Entity.id).Nodup := by
  rw [← Text.firstRepeated?_eq_none_iff]
  unfold checkIds
  cases Text.firstRepeated? [] (as.map Entity.id) <;> simp

theorem Snapshot.checkIds_eq_ok_iff {s : Snapshot} : s.checkIds = .ok () ↔
    (s.elements.map Element.id).Nodup ∧ (s.issues.map Issue.id).Nodup ∧
      (s.reconciliation.map Match.currentId).Nodup := by
  have he : DataGovernance.checkIds s.elements = .ok () ↔ (s.elements.map Element.id).Nodup :=
    DataGovernance.checkIds_eq_ok_iff
  have hi : DataGovernance.checkIds s.issues = .ok () ↔ (s.issues.map Issue.id).Nodup :=
    DataGovernance.checkIds_eq_ok_iff
  have hm : DataGovernance.checkIds s.reconciliation = .ok () ↔
      (s.reconciliation.map Match.currentId).Nodup := DataGovernance.checkIds_eq_ok_iff
  rw [← he, ← hi, ← hm]
  unfold Snapshot.checkIds
  cases DataGovernance.checkIds s.elements with
  | error e => simp [bind, Except.bind]
  | ok _ =>
    cases DataGovernance.checkIds s.issues with
    | error e => simp [bind, Except.bind]
    | ok _ => simp [bind, Except.bind]

/-- A lineage is a graph exactly when its ids differ and its edges join known nodes. -/
theorem Graph.ofLineage_eq_ok_iff {l : Lineage} : (∃ g, Graph.ofLineage l = .ok g) ↔
    l.ids.Nodup ∧ ∀ e ∈ l.edges, e.source ∈ l.ids ∧ e.target ∈ l.ids := by
  rw [← Text.firstRepeated?_eq_none_iff, ← firstDangling?_eq_none_iff]
  unfold Graph.ofLineage
  split
  · rename_i id hr
    simp [hr]
  · rename_i hr
    split
    · rename_i e id hd
      simp [hd]
    · rename_i hd
      simp [hr, hd]

/-- The graph of a lineage has its nodes and edges. -/
theorem Graph.toLineage_of_ofLineage {l : Lineage} {g : Graph}
    (h : Graph.ofLineage l = .ok g) : g.toLineage = l := by
  unfold Graph.ofLineage at h
  split at h
  · cases h
  · split at h
    · cases h
    · cases h
      rfl

namespace Session

/-- A session opens exactly on the well-formed snapshots. -/
theorem new_eq_ok_iff {s : Snapshot} {rules : ResolutionRules} {σ : Session} :
    new s rules = .ok σ ↔ s.WellFormed ∧ σ = ⟨s, rules⟩ := by
  have hc := Snapshot.checkIds_eq_ok_iff (s := s)
  have hg := Graph.ofLineage_eq_ok_iff (l := s.lineage)
  unfold new
  constructor
  · intro h
    split at h
    · cases h
    · rename_i hids
      split at h
      · cases h
      · rename_i g hgraph
        obtain ⟨he, hi, hm⟩ := hc.1 hids
        obtain ⟨hn, hd⟩ := hg.1 ⟨g, hgraph⟩
        cases h
        exact ⟨⟨he, hi, hm, hn, hd⟩, rfl⟩
  · rintro ⟨hs, rfl⟩
    obtain ⟨g, hgraph⟩ := hg.2 ⟨hs.nodes, hs.edges⟩
    rw [hc.2 ⟨hs.elements, hs.issues, hs.reconciliation⟩]
    simp [hgraph]

end Session

/-! ### What no operation touches -/

/-- Two snapshots have the same ids, in the same order, and the same edges. -/
structure Snapshot.SameIds (s t : Snapshot) : Prop where
  elements : t.elements.map Element.id = s.elements.map Element.id
  issues : t.issues.map Issue.id = s.issues.map Issue.id
  reconciliation : t.reconciliation.map Match.currentId = s.reconciliation.map Match.currentId
  nodes : t.lineage.nodes.map Node.id = s.lineage.nodes.map Node.id
  edges : t.lineage.edges = s.lineage.edges

theorem ElementChange.id_eq {m : Mutation} {e f : Element} (h : ElementChange m e f) :
    f.id = e.id := by
  cases h <;> rfl

theorem IssueChange.id_eq {rules : ResolutionRules} {now : Time.Timestamp} {m : Mutation}
    {i j : Issue} (h : IssueChange rules now m i j) : j.id = i.id := by
  cases h <;> rfl

theorem MatchChange.id_eq {m : Mutation} {a b : Match} (h : MatchChange m a b) :
    b.currentId = a.currentId := by
  cases h <;> rfl

theorem NodeChange.id_eq {m : Mutation} {a b : Node} (h : NodeChange m a b) : b.id = a.id := by
  cases h <;> rfl

namespace Snapshot

variable {s t u : Snapshot}

theorem SameIds.refl (s : Snapshot) : SameIds s s := ⟨rfl, rfl, rfl, rfl, rfl⟩

theorem SameIds.trans (h : SameIds s t) (h' : SameIds t u) : SameIds s u :=
  ⟨h'.elements.trans h.elements, h'.issues.trans h.issues,
    h'.reconciliation.trans h.reconciliation, h'.nodes.trans h.nodes, h'.edges.trans h.edges⟩

theorem sameIds_of_effect {rules : ResolutionRules} {now : Time.Timestamp} {m : Mutation}
    (h : m.Effect rules now s t) : SameIds s t := by
  cases h with
  | elements es h =>
    have hids := h.map_eq (f := Element.id) fun _ _ => ElementChange.id_eq
    exact ⟨hids, rfl, rfl, rfl, rfl⟩
  | issues is h =>
    have hids := h.map_eq (f := Issue.id) fun _ _ => IssueChange.id_eq
    exact ⟨rfl, hids, rfl, rfl, rfl⟩
  | reconciliation ms h =>
    have hids := h.map_eq (f := Match.currentId) fun _ _ => MatchChange.id_eq
    exact ⟨rfl, rfl, hids, rfl, rfl⟩
  | nodes ns h =>
    have hids := h.map_eq (f := Node.id) fun _ _ => NodeChange.id_eq
    exact ⟨rfl, rfl, rfl, hids, rfl⟩

/-- Whether a snapshot is well-formed is a matter of its ids and edges. -/
theorem WellFormed.of_sameIds (hs : s.WellFormed) (h : SameIds s t) : t.WellFormed where
  elements := h.elements ▸ hs.elements
  issues := h.issues ▸ hs.issues
  reconciliation := h.reconciliation ▸ hs.reconciliation
  nodes := h.nodes ▸ hs.nodes
  edges := by
    rw [h.edges, h.nodes]
    exact hs.edges

end Snapshot

namespace Session

theorem Transition.sameIds {σ τ : Session} {op : Operation} (h : Transition σ op τ) :
    Snapshot.SameIds σ.snapshot τ.snapshot := by
  cases h with
  | advanced next _ _ => exact ⟨rfl, rfl, rfl, rfl, rfl⟩
  | wentBack previous _ => exact ⟨rfl, rfl, rfl, rfl, rfl⟩
  | applied m now s hm =>
    have hs := Snapshot.sameIds_of_effect (Mutation.effect_of_perform hm)
    exact ⟨hs.elements, hs.issues, hs.reconciliation, hs.nodes, hs.edges⟩

/-- A run changes no id and no edge. -/
theorem sameIds_run (σ : Session) (ops : List Operation) :
    Snapshot.SameIds σ.snapshot (σ.run ops).snapshot :=
  run_induction (P := fun τ => Snapshot.SameIds σ.snapshot τ.snapshot)
    (fun _ _ _ ht h => h.trans ht.sameIds) ops (.refl _)

/-! ### Questions -/

theorem impact_eq_error_iff {σ : Session} (hσ : σ.snapshot.WellFormed) {id : String} :
    (∃ e, σ.impact id = .error e) ↔ id ∉ σ.snapshot.lineage.nodes.map Node.id := by
  obtain ⟨g, hg⟩ := Graph.ofLineage_eq_ok_iff.2 ⟨hσ.nodes, hσ.edges⟩
  have hids : g.ids = σ.snapshot.lineage.ids := by rw [Graph.toLineage_of_ofLineage hg]
  have hi : σ.impact id = g.impact id := by
    unfold impact graph
    rw [hg]
    rfl
  rw [hi, Graph.impact, Graph.reachable]
  by_cases hid : id ∈ g.ids
  · rw [if_pos hid]
    rw [hids] at hid
    simpa [bind, Except.bind, pure, Except.pure, Lineage.ids] using hid
  · rw [if_neg hid]
    rw [hids] at hid
    simpa [bind, Except.bind, Lineage.ids] using hid

theorem checkResolution_eq_error_iff {σ : Session} {id : String} :
    (∃ e, σ.checkResolution id = .error e) ↔ id ∉ σ.snapshot.issues.map Issue.id := by
  unfold checkResolution
  cases hf : σ.snapshot.issues.find? (fun i => i.id == id) with
  | none =>
    simp only [List.find?_eq_none, beq_iff_eq] at hf
    simpa using hf
  | some i =>
    have hid := List.find?_some hf
    simp only [beq_iff_eq] at hid
    simpa using ⟨i, List.mem_of_find?_eq_some hf, hid⟩

/-- **A session can be reopened at any time.** Once it has opened on a snapshot, every snapshot that
a run reaches is well-formed again: it opens under the same rules, its lineage is a graph, and
impacts and checks fail exactly for the ids that the first snapshot does not have. -/
theorem run_reopens {s : Snapshot} {rules : ResolutionRules} {σ : Session}
    (h : new s rules = .ok σ) (ops : List Operation) :
    (σ.run ops).snapshot.WellFormed ∧
      new (σ.run ops).snapshot rules = .ok (σ.run ops) ∧
      (∃ g, (σ.run ops).graph = .ok g) ∧
      (∀ id, (∃ e, (σ.run ops).impact id = .error e) ↔ id ∉ s.lineage.nodes.map Node.id) ∧
      (∀ id, (∃ e, (σ.run ops).checkResolution id = .error e) ↔ id ∉ s.issues.map Issue.id) := by
  obtain ⟨hs, rfl⟩ := new_eq_ok_iff.1 h
  have hids := sameIds_run ⟨s, rules⟩ ops
  have hrules := run_rules ⟨s, rules⟩ ops
  have hwf := hs.of_sameIds hids
  refine ⟨hwf, new_eq_ok_iff.2 ⟨hwf, ?_⟩, Graph.ofLineage_eq_ok_iff.2 ⟨hwf.nodes, hwf.edges⟩,
    fun id => ?_, fun id => ?_⟩
  · change (⟨_, (run ⟨s, rules⟩ ops).rules⟩ : Session) = _
    rw [hrules]
    rfl
  · rw [impact_eq_error_iff hwf, hids.nodes]
  · rw [checkResolution_eq_error_iff, hids.issues]

/-- An issue, and two nodes that an edge joins. -/
def joined : Snapshot where
  issues := [{ id := "i", title := "", severity := .low, status := .opened, createdAt := .epoch }]
  lineage := {
    nodes := [
      { id := "a", label := "", nodeType := .sourceTable },
      { id := "b", label := "", nodeType := .reportField }]
    edges := [⟨"a", "b"⟩] }

/-- Two operations that are refused, with two between them that are not. -/
def joinedRun : List Operation := [
  .back,
  .apply (.deferBusinessTerms "b" "next cycle") .epoch,
  .advance,
  .apply (.setIssueStatus "i" .closed) .epoch]

theorem run_reopens_joined :
    new joined {} = .ok ⟨joined, {}⟩ ∧ (run ⟨joined, {}⟩ joinedRun).snapshot.WellFormed ∧
      ∀ id, (∃ e, (run ⟨joined, {}⟩ joinedRun).impact id = .error e) ↔ id ∉ ["a", "b"] := by
  have hopen : new joined {} = .ok ⟨joined, {}⟩ := rfl
  have hreached := run_reopens hopen joinedRun
  exact ⟨hopen, hreached.1, hreached.2.2.2.1⟩

end Session

end DataGovernance
