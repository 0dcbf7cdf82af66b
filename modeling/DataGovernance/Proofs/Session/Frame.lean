import DataGovernance.Proofs.Mutation.Edit
import DataGovernance.Proofs.Session.WellFormed

/-!
# What a run leaves alone

Operations write little: an advance or a step back the step, a mutation the entities of one
collection, and each of them the version. Of an entity only some fields are ever written, so what is
left of a snapshot without these fields is the same in every state of a run. The lineage graph is
asked about ids, edges, labels, types and related elements, none of which is ever written. Its
answers therefore stay the same, too.

Key definitions: `Snapshot.fixed`, `Operation.Writes`, `Graph.fixed`.
Key theorems: `Session.Transition.writes`, `Session.fixed_run`, `Graph.SameAnswers.of_fixed_eq`,
`Session.run_frame`.
-/

namespace DataGovernance

/-! ### Snapshots without what is written -/

/-- An element without the fields that operations write. -/
def Element.fixed (e : Element) : Element := { e with status := .pending, owner := none }

/-- An issue without the fields that operations write. -/
def Issue.fixed (i : Issue) : Issue :=
  { i with
    status := .opened
    priority := none
    assignee := none
    resolution := none
    resolvedAt := none }

/-- A match without the field that operations write. -/
def Match.fixed (m : Match) : Match := { m with actionTaken := none }

/-- A node without the fields that operations write. -/
def Node.fixed (n : Node) : Node :=
  { n with businessTerms := [], businessTermsDeferred := false, deferralReason := none }

/-- A lineage without what operations write. -/
def Lineage.fixed (l : Lineage) : Lineage := { l with nodes := l.nodes.map Node.fixed }

/-- A snapshot without what operations write. -/
def Snapshot.fixed (s : Snapshot) : Snapshot where
  cycleId := s.cycleId
  elements := s.elements.map Element.fixed
  issues := s.issues.map Issue.fixed
  reconciliation := s.reconciliation.map Match.fixed
  lineage := s.lineage.fixed

theorem ElementChange.fixed_eq {m : Mutation} {e f : Element} (h : ElementChange m e f) :
    f.fixed = e.fixed := by
  cases h <;> rfl

theorem IssueChange.fixed_eq {rules : ResolutionRules} {now : Time.Timestamp} {m : Mutation}
    {i j : Issue} (h : IssueChange rules now m i j) : j.fixed = i.fixed := by
  cases h <;> rfl

theorem MatchChange.fixed_eq {m : Mutation} {a b : Match} (h : MatchChange m a b) :
    b.fixed = a.fixed := by
  cases h <;> rfl

theorem NodeChange.fixed_eq {m : Mutation} {a b : Node} (h : NodeChange m a b) :
    b.fixed = a.fixed := by
  cases h <;> rfl

/-! ### What one operation writes -/

/-- What an operation may write in a snapshot: an advance or a step back the step, a mutation its
collection, and each of them the version, which grows by one. -/
inductive Operation.Writes (s : Snapshot) : Operation → Snapshot → Prop
  | advance (step : Step) :
    Writes s .advance { s with version := s.version + 1, progress := ⟨step⟩ }
  | back (step : Step) : Writes s .back { s with version := s.version + 1, progress := ⟨step⟩ }
  | apply (m : Mutation) (now : Time.Timestamp) (as : List m.collection.Carrier) :
    Writes s (.apply m now) (s.replace m.collection as)

/-- A mutation replaces its collection. -/
theorem Mutation.exists_replace {rules : ResolutionRules} {now : Time.Timestamp} {m : Mutation}
    {s t : Snapshot} (h : m.perform rules now s = .ok t) :
    ∃ as, t.later = s.replace m.collection as := by
  have hrun : (m.edit rules now).run s = .ok t.later := by
    rw [run_edit, h]
    rfl
  rw [Edit.run] at hrun
  obtain ⟨as, -, has⟩ := map_eq_ok hrun
  exact ⟨as, has.symm⟩

namespace Session

variable {σ τ : Session} {op : Operation}

/-- An operation that succeeds writes nothing but what it may write. -/
theorem Transition.writes (h : Transition σ op τ) : op.Writes σ.snapshot τ.snapshot := by
  cases h with
  | advanced next _ _ => exact .advance next
  | wentBack previous _ => exact .back previous
  | applied m now s hm =>
    obtain ⟨as, has⟩ := Mutation.exists_replace hm
    change Operation.Writes σ.snapshot (.apply m now) s.later
    rw [has]
    exact .apply m now as

theorem Transition.cycleId_eq (h : Transition σ op τ) :
    τ.snapshot.cycleId = σ.snapshot.cycleId := by
  cases h with
  | advanced next _ _ => rfl
  | wentBack previous _ => rfl
  | applied m now s hm =>
    have heffect := Mutation.effect_of_perform hm
    cases heffect <;> rfl

/-- No operation is seen in a snapshot without what operations write. -/
theorem Transition.fixed_eq (h : Transition σ op τ) : τ.snapshot.fixed = σ.snapshot.fixed := by
  have he := h.changes.elements.map_eq fun _ _ ⟨_, he⟩ => he.fixed_eq
  have hi := h.changes.issues.map_eq fun _ _ ⟨_, _, hi⟩ => hi.fixed_eq
  have hm := h.changes.reconciliation.map_eq fun _ _ ⟨_, hm⟩ => hm.fixed_eq
  have hn := h.changes.nodes.map_eq fun _ _ ⟨_, hn⟩ => hn.fixed_eq
  rw [Snapshot.fixed, Snapshot.fixed, Lineage.fixed, Lineage.fixed, h.cycleId_eq, he, hi, hm, hn,
    h.sameIds.edges]

/-- No run is seen in the snapshot without what operations write. -/
theorem fixed_run (σ : Session) (ops : List Operation) :
    (σ.run ops).snapshot.fixed = σ.snapshot.fixed :=
  run_induction (P := fun τ => τ.snapshot.fixed = σ.snapshot.fixed)
    (fun _ _ _ ht h => ht.fixed_eq.trans h) ops rfl

end Session

/-! ### What the graph is asked about -/

@[simp] theorem Lineage.ids_fixed (l : Lineage) : l.fixed.ids = l.ids :=
  List.map_map

namespace Graph

/-- A graph without what operations write in its nodes. -/
def fixed (g : Graph) : Graph where
  toLineage := g.toLineage.fixed
  nodup_ids := by
    rw [Lineage.ids_fixed]
    exact g.nodup_ids
  ends_known := by
    rw [Lineage.ids_fixed]
    exact g.ends_known

theorem eq_of_toLineage {g g' : Graph} (h : g.toLineage = g'.toLineage) : g = g' := by
  cases g
  cases g'
  cases h
  rfl

variable (g : Graph)

theorem reachable_fixed (id : String) (direction : Direction) :
    g.fixed.reachable id direction = g.reachable id direction := by
  have hids : g.fixed.ids = g.ids := Lineage.ids_fixed _
  have hnext : g.fixed.neighbours direction = g.neighbours direction := rfl
  rw [reachable, reachable, hids, hnext]

theorem node?_fixed (id : String) : g.fixed.node? id = (g.node? id).map Node.fixed :=
  List.find?_map

theorem filterMap_node?_fixed (ids : List String) :
    ids.filterMap g.fixed.node? = (ids.filterMap g.node?).map Node.fixed := by
  rw [List.map_filterMap]
  exact congrArg (ids.filterMap ·) (funext g.node?_fixed)

theorem impact_fixed (id : String) : g.fixed.impact id = g.impact id := by
  unfold impact
  rw [reachable_fixed]
  refine congrArg _ (funext fun ids => ?_)
  simp only [filterMap_node?_fixed, List.flatMap_map, List.filter_map, List.map_map]
  rfl

theorem hasCycles_fixed : g.fixed.hasCycles = g.hasCycles := by
  have hids : g.fixed.ids = g.ids := Lineage.ids_fixed _
  have hedges : g.fixed.edges = g.edges := rfl
  rw [hasCycles, hasCycles, hids, hedges]

theorem stats_fixed : g.fixed.stats = g.stats := by
  have hnodes : g.fixed.nodes = g.nodes.map Node.fixed := rfl
  have hedges : g.fixed.edges = g.edges := rfl
  rw [stats, stats, hasCycles_fixed, hnodes, hedges, List.length_map, List.countP_map,
    List.countP_map]
  rfl

/-- Two graphs answer every question alike. -/
structure SameAnswers (g g' : Graph) : Prop where
  reachable : ∀ id direction, g'.reachable id direction = g.reachable id direction
  impact : ∀ id, g'.impact id = g.impact id
  stats : g'.stats = g.stats
  hasCycles : g'.hasCycles = g.hasCycles

/-- Graphs that differ only in what operations write answer alike. -/
theorem SameAnswers.of_fixed_eq {g g' : Graph} (h : g'.toLineage.fixed = g.toLineage.fixed) :
    SameAnswers g g' := by
  have hfixed : g'.fixed = g.fixed := eq_of_toLineage h
  constructor
  · intro id direction
    rw [← reachable_fixed, hfixed, reachable_fixed]
  · intro id
    rw [← impact_fixed, hfixed, impact_fixed]
  · rw [← stats_fixed, hfixed, stats_fixed]
  · rw [← hasCycles_fixed, hfixed, hasCycles_fixed]

end Graph

/-! ### Runs -/

namespace Session

/-- **A run leaves nearly everything alone.** In every state of a run of a session that has opened
on a snapshot, the cycle, the ids in all four collections and the edges are those of the snapshot,
and so is all else but the fields that operations write; an operation that succeeds there writes
only what it may write; and the lineage is a graph that answers every question as the first. -/
theorem run_frame {s : Snapshot} {rules : ResolutionRules} {σ : Session}
    (h : new s rules = .ok σ) (ops : List Operation) :
    (σ.run ops).snapshot.cycleId = s.cycleId ∧ Snapshot.SameIds s (σ.run ops).snapshot ∧
      (σ.run ops).snapshot.fixed = s.fixed ∧
      (∀ op τ, (σ.run ops).perform op = .ok τ →
        op.Writes (σ.run ops).snapshot τ.snapshot) ∧
      ∃ g g', σ.graph = .ok g ∧ (σ.run ops).graph = .ok g' ∧ g.SameAnswers g' := by
  obtain ⟨hs, rfl⟩ := new_eq_ok_iff.1 h
  have hfixed := fixed_run ⟨s, rules⟩ ops
  have hcycle := congrArg Snapshot.cycleId hfixed
  have hlineage := congrArg Snapshot.lineage hfixed
  have hids := sameIds_run ⟨s, rules⟩ ops
  have hwf := hs.of_sameIds hids
  obtain ⟨g, hg⟩ := Graph.ofLineage_eq_ok_iff.2 ⟨hs.nodes, hs.edges⟩
  obtain ⟨g', hg'⟩ := Graph.ofLineage_eq_ok_iff.2 ⟨hwf.nodes, hwf.edges⟩
  refine ⟨hcycle, hids, hfixed,
    fun op τ hτ => (perform_eq_ok_iff.1 hτ).writes, g, g', hg, hg', .of_fixed_eq ?_⟩
  rw [Graph.toLineage_of_ofLineage hg, Graph.toLineage_of_ofLineage hg']
  exact hlineage

theorem run_frame_joined :
    new joined {} = .ok ⟨joined, {}⟩ ∧
      (run ⟨joined, {}⟩ joinedRun).snapshot.fixed = joined.fixed ∧
      ∃ g g', graph ⟨joined, {}⟩ = .ok g ∧ (run ⟨joined, {}⟩ joinedRun).graph = .ok g' ∧
        g.SameAnswers g' := by
  have hopen : new joined {} = .ok ⟨joined, {}⟩ := rfl
  obtain ⟨-, -, hfixed, -, hgraphs⟩ := run_frame hopen joinedRun
  exact ⟨hopen, hfixed, hgraphs⟩

end Session

end DataGovernance
