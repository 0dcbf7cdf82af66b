import DataGovernance.Lineage.Impact
import DataGovernance.Proofs.Lineage.Reachability
import DataGovernance.Proofs.Text.Clean

/-!
# What a change touches

A change to a node touches the nodes that paths lead to from it. The impact of the change lists
them, the elements that they are related to and the labels of the report fields among them, each
once and in ascending order. A node that lies on no cycle is not touched by a change to itself, so
what it is related to and its label count only if another node brings them in.

Key definitions: `Graph.Touches`, `ImpactLevel.Fits`.
Key theorem: `Graph.impact_spec`.
-/

namespace DataGovernance

/-- The different texts of a list ascend. -/
theorem Text.pairwise_lt_sortedSet (ss : List String) : (sortedSet ss).Pairwise (· < ·) := by
  have hnodup : ss.eraseDups.Nodup :=
    (pairwise_idxOf_eraseDups ss).imp fun hlt he => Nat.ne_of_lt hlt (congrArg ss.idxOf he)
  exact pairwise_lt_sorted hnodup

/-- Whether a level goes with what is touched: more than five elements are critical; up to five are
high with a report field; without one, more than two are medium and up to two are low. -/
def ImpactLevel.Fits (elements reports : List String) : ImpactLevel → Prop
  | critical => 5 < elements.length
  | high => elements.length ≤ 5 ∧ reports ≠ []
  | medium => 2 < elements.length ∧ elements.length ≤ 5 ∧ reports = []
  | low => elements.length ≤ 2 ∧ reports = []

namespace ImpactLevel

variable {elements reports : List String} {level level' : ImpactLevel}

/-- The level for the counts goes with what is touched. -/
theorem fits_ofCounts (elements reports : List String) :
    (ofCounts elements.length reports.length).Fits elements reports := by
  have hnone : ¬0 < reports.length ↔ reports = [] := by simp
  unfold ofCounts
  split_ifs with hcritical hhigh hmedium
  · exact hcritical
  · exact ⟨by omega, List.length_pos_iff.1 hhigh⟩
  · exact ⟨hmedium, by omega, hnone.1 hhigh⟩
  · exact ⟨by omega, hnone.1 hhigh⟩

/-- No two levels go with what is touched. -/
theorem Fits.eq (h : level.Fits elements reports) (h' : level'.Fits elements reports) :
    level = level' := by
  cases level <;> cases level' <;> grind [Fits]

theorem ofCounts_eq_iff :
    ofCounts elements.length reports.length = level ↔ level.Fits elements reports :=
  ⟨fun h => h ▸ fits_ofCounts elements reports, fun h => (fits_ofCounts elements reports).eq h⟩

end ImpactLevel

namespace Graph

variable {g : Graph} {a : String}

/-- A change to the node with the id touches the node. -/
def Touches (g : Graph) (a : String) (n : Node) : Prop := n ∈ g.nodes ∧ g.HasPath a n.id

/-- An id finds the one node that has it. -/
theorem node?_eq_some_iff {id : String} {n : Node} :
    g.node? id = some n ↔ n ∈ g.nodes ∧ n.id = id := by
  constructor
  · intro h
    exact ⟨List.mem_of_find?_eq_some h, by simpa using List.find?_some h⟩
  · rintro ⟨hn, rfl⟩
    have hsome : (g.node? n.id).isSome := List.find?_isSome.2 ⟨n, hn, by simp⟩
    obtain ⟨m, hm⟩ := Option.isSome_iff_exists.1 hsome
    have hid : m.id = n.id := by simpa using List.find?_some hm
    rw [hm, List.inj_on_of_nodup_map g.nodup_ids (List.mem_of_find?_eq_some hm) hn hid]

/-- The nodes behind the ids that paths lead to are the nodes that are touched. -/
theorem mem_filterMap_node?_iff {ids : List String} (h : ∀ b, b ∈ ids ↔ g.HasPath a b) {n : Node} :
    n ∈ ids.filterMap g.node? ↔ g.Touches a n := by
  simp only [List.mem_filterMap, node?_eq_some_iff, h]
  constructor
  · rintro ⟨id, hpath, hn, rfl⟩
    exact ⟨hn, hpath⟩
  · rintro ⟨hn, hpath⟩
    exact ⟨n.id, hpath, hn, rfl⟩

/-- **The impact of a change is what it touches.** Of a node one can ask for the impact. It lists,
each once and in ascending order, the ids that one or more edges lead to, the elements that the
nodes with these ids are related to, and the labels of the report fields among them; its level is
the one that goes with these elements and labels. The node itself is touched exactly when it lies on
a cycle. -/
theorem impact_spec (ha : a ∈ g.ids) :
    ∃ i, g.impact a = .ok i ∧ i.source = a ∧
      (i.nodes.Pairwise (· < ·) ∧ ∀ b, b ∈ i.nodes ↔ g.HasPath a b) ∧
      (i.elements.Pairwise (· < ·) ∧
        ∀ e, e ∈ i.elements ↔ ∃ n, g.Touches a n ∧ e ∈ n.relatedElements) ∧
      (i.reports.Pairwise (· < ·) ∧
        ∀ s, s ∈ i.reports ↔ ∃ n, g.Touches a n ∧ n.nodeType = .reportField ∧ n.label = s) ∧
      (∀ level, i.level = level ↔ level.Fits i.elements i.reports) ∧
      ∀ n ∈ g.nodes, n.id = a → (g.Touches a n ↔ g.OnCycle a) := by
  obtain ⟨ids, hok, hsorted, hmem⟩ := reachable_eq_ok ha .downstream
  have hnodes := fun n => mem_filterMap_node?_iff (n := n) hmem
  refine ⟨_, by simp only [impact, hok]; rfl, rfl, ⟨hsorted, hmem⟩,
    ⟨Text.pairwise_lt_sortedSet _, fun e => ?_⟩, ⟨Text.pairwise_lt_sortedSet _, fun s => ?_⟩,
    fun level => ImpactLevel.ofCounts_eq_iff, ?_⟩
  · simp only [Text.mem_sortedSet, List.mem_flatMap, hnodes]
  · simp only [Text.mem_sortedSet, List.mem_map, List.mem_filter, beq_iff_eq, hnodes, and_assoc]
  · rintro n hn rfl
    rw [onCycle_iff]
    exact ⟨And.right, fun hpath => ⟨hn, hpath⟩⟩

/-- Two tables that feed each other, each related to elements, and one report field behind them. -/
def reported : Graph where
  nodes := [
    { id := "b", label := "B", nodeType := .stagingTable, relatedElements := ["e2", "e1"] },
    { id := "r", label := "R", nodeType := .reportField, relatedElements := ["e2"] },
    { id := "a", label := "A", nodeType := .sourceTable, relatedElements := ["e3", "e1"] }]
  edges := [⟨"a", "b"⟩, ⟨"b", "a"⟩, ⟨"b", "r"⟩]
  nodup_ids := by decide
  ends_known := by decide

theorem impact_spec_reported :
    "a" ∈ reported.ids ∧
      (reported.impact "a").map (fun i => (i.nodes, i.elements, i.reports)) =
        .ok (["a", "b", "r"], ["e1", "e2", "e3"], ["R"]) ∧
      (reported.impact "a").map Impact.level = .ok .high ∧ reported.OnCycle "a" := by
  have ha : "a" ∈ reported.ids := by decide
  have hanswer : (reported.impact "a").map (fun i => (i.nodes, i.elements, i.reports)) =
      .ok (["a", "b", "r"], ["e1", "e2", "e3"], ["R"]) := by cbv
  obtain ⟨i, hok, -, ⟨-, hnodes⟩, -, -, hlevel, hself⟩ := impact_spec ha
  rw [hok] at hanswer ⊢
  obtain ⟨hn, he, hr⟩ : i.nodes = ["a", "b", "r"] ∧ i.elements = ["e1", "e2", "e3"] ∧
      i.reports = ["R"] := by simpa [Except.map] using hanswer
  have hhigh : i.level = .high := (hlevel .high).2 (by simp [he, hr, ImpactLevel.Fits])
  have hpath : reported.HasPath "a" "a" := (hnodes "a").1 (by rw [hn]; decide)
  obtain ⟨n, hn, hid⟩ : ∃ n ∈ reported.nodes, n.id = "a" := by decide
  exact ⟨ha, hanswer, by rw [← hhigh]; rfl, (hself n hn hid).1 ⟨hn, hid ▸ hpath⟩⟩

end Graph

end DataGovernance
