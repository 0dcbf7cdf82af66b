import DataGovernance.Proofs.Lineage.Cycles
import DataGovernance.Proofs.Lineage.Impact
import Mathlib.Data.List.Perm.Subperm

/-!
# More edges touch more

A graph is part of another one when both have the same nodes, in whatever order, and the other one
has all of its edges. What leads from node to node in the first graph does so in the second, so from
each node there is at least as much to be reached. All that the impact of a change tells depends on
the nodes that are reached, and it only grows with them: the elements, the labels of report fields,
and the level, because no threshold is lost by counting more. Graphs that are part of each other
answer alike, whatever the order of their edges and however often one is listed. Within one graph a
change touches at least what a change further downstream does.

Key definitions: `Impact.ofIds`, `Impact.Within`, `Graph.PartOf`.
Key theorems: `ImpactLevel.rank_ofCounts_le`, `Impact.within_ofIds`, `Graph.PartOf.leads`,
`Graph.PartOf.reachable_subset`, `Graph.touches_grows`.
-/

namespace DataGovernance

open Relation

/-! ### The impact grows with what is reached -/

namespace Text

variable {ss ts : List String}

theorem sortedSet_subset (h : ss ⊆ ts) : sortedSet ss ⊆ sortedSet ts := by
  intro s hs
  rw [mem_sortedSet] at hs ⊢
  exact h hs

/-- Fewer texts make fewer different texts. -/
theorem length_sortedSet_le (h : ss ⊆ ts) : (sortedSet ss).length ≤ (sortedSet ts).length := by
  have hnodup : (sortedSet ss).Nodup :=
    (pairwise_lt_sortedSet ss).imp fun hlt => String.ne_of_lt hlt
  exact (hnodup.subperm (sortedSet_subset h)).length_le

end Text

namespace ImpactLevel

theorem rank_ofCounts (elements reports : Nat) :
    Vocabulary.rank (ofCounts elements reports) =
      if 5 < elements then 3 else if 0 < reports then 2 else if 2 < elements then 1 else 0 := by
  unfold ofCounts
  split_ifs <;> rfl

/-- More elements and report fields do not make for a lower level. -/
theorem rank_ofCounts_le {elements elements' reports reports' : Nat} (he : elements ≤ elements')
    (hr : reports ≤ reports') :
    Vocabulary.rank (ofCounts elements reports) ≤
      Vocabulary.rank (ofCounts elements' reports') := by
  rw [rank_ofCounts, rank_ofCounts]
  split_ifs <;> omega

end ImpactLevel

namespace Impact

/-- The impact of a change to a node, told from the ids that are reached from it. -/
def ofIds (node? : String → Option Node) (source : String) (ids : List String) : Impact :=
  let nodes := ids.filterMap node?
  let elements := Text.sortedSet (nodes.flatMap Node.relatedElements)
  let reports := Text.sortedSet
    ((nodes.filter fun n => n.nodeType == .reportField).map Node.label)
  { source
    nodes := ids
    elements
    reports
    level := .ofCounts elements.length reports.length }

/-- One impact lists nothing that another one does not list, and its level is no higher. -/
structure Within (i j : Impact) : Prop where
  nodes : i.nodes ⊆ j.nodes
  elements : i.elements ⊆ j.elements
  reports : i.reports ⊆ j.reports
  level : Vocabulary.rank i.level ≤ Vocabulary.rank j.level

/-- The impact grows with the ids that are reached. -/
theorem within_ofIds {ids ids' : List String} (h : ids ⊆ ids') (node? : String → Option Node)
    (a b : String) : (ofIds node? a ids).Within (ofIds node? b ids') := by
  have hnodes : ids.filterMap node? ⊆ ids'.filterMap node? := List.filterMap_subset node? h
  have helements : (ids.filterMap node?).flatMap Node.relatedElements ⊆
      (ids'.filterMap node?).flatMap Node.relatedElements := by
    intro e he
    obtain ⟨n, hn, hen⟩ := List.mem_flatMap.1 he
    exact List.mem_flatMap.2 ⟨n, hnodes hn, hen⟩
  have hreports := List.map_subset Node.label
    (List.filter_subset (fun n => n.nodeType == .reportField) hnodes)
  exact {
    nodes := h
    elements := Text.sortedSet_subset helements
    reports := Text.sortedSet_subset hreports
    level := ImpactLevel.rank_ofCounts_le (Text.length_sortedSet_le helements)
      (Text.length_sortedSet_le hreports) }

end Impact

namespace Graph

variable {g h : Graph} {a b : String}

theorem impact_eq (g : Graph) (id : String) :
    g.impact id = (g.reachable id .downstream).map (Impact.ofIds g.node? id) := by
  unfold impact
  cases g.reachable id .downstream <;> rfl

/-! ### Graphs that are part of others -/

/-- Two graphs have the same nodes, in whatever order, and every edge of the one is an edge of the
other. -/
structure PartOf (g h : Graph) : Prop where
  nodes : g.nodes.Perm h.nodes
  edges : g.edges ⊆ h.edges

namespace PartOf

theorem symm (hgh : g.PartOf h) (hedges : h.edges ⊆ g.edges) : h.PartOf g :=
  ⟨hgh.nodes.symm, hedges⟩

theorem mem_ids_iff (hgh : g.PartOf h) : a ∈ g.ids ↔ a ∈ h.ids :=
  (hgh.nodes.map Node.id).mem_iff

/-- An id finds the same node in both graphs. -/
theorem node?_eq (hgh : g.PartOf h) : g.node? = h.node? := by
  funext id
  refine Option.ext fun n => ?_
  rw [node?_eq_some_iff, node?_eq_some_iff, hgh.nodes.mem_iff]

theorem hasPath (hgh : g.PartOf h) (hab : g.HasPath a b) : h.HasPath a b :=
  TransGen.mono (fun _ _ hedge => hgh.edges hedge) _ _ hab

/-- What leads from node to node does so in the other graph too. -/
theorem leads (hgh : g.PartOf h) {direction : Direction} (hab : g.Leads direction a b) :
    h.Leads direction a b := by
  cases direction with
  | downstream => exact hgh.hasPath hab
  | upstream => exact hgh.hasPath hab

/-- From a node at least as much can be reached in the other graph. -/
theorem reachable_subset (hgh : g.PartOf h) (ha : a ∈ g.ids) (direction : Direction) :
    ∃ found found', g.reachable a direction = .ok found ∧ h.reachable a direction = .ok found' ∧
      found ⊆ found' := by
  obtain ⟨found, hok, -, hmem⟩ := reachable_eq_ok ha direction
  obtain ⟨found', hok', -, hmem'⟩ := reachable_eq_ok (hgh.mem_ids_iff.1 ha) direction
  refine ⟨found, found', hok, hok', fun b hb => ?_⟩
  exact (hmem' b).2 (hgh.leads ((hmem b).1 hb))

/-- Graphs that are part of each other answer alike what is reachable, also from what is no node. -/
theorem reachable_eq (hgh : g.PartOf h) (hhg : h.PartOf g) (a : String) (direction : Direction) :
    g.reachable a direction = h.reachable a direction := by
  by_cases ha : a ∈ g.ids
  · obtain ⟨found, hok, hsorted, hmem⟩ := reachable_eq_ok ha direction
    obtain ⟨found', hok', hsorted', hmem'⟩ := reachable_eq_ok (hgh.mem_ids_iff.1 ha) direction
    have heq : found = found' := Text.eq_of_pairwise_lt hsorted hsorted' fun b => by
      rw [hmem, hmem']
      exact ⟨hgh.leads, hhg.leads⟩
    rw [hok, hok', heq]
  · rw [reachable_eq_error_iff.2 ha, reachable_eq_error_iff.2 (mt hgh.mem_ids_iff.2 ha)]

/-- A change to a node touches at least as much in the other graph. -/
theorem impact_within (hgh : g.PartOf h) (ha : a ∈ g.ids) :
    ∃ i j, g.impact a = .ok i ∧ h.impact a = .ok j ∧ i.Within j := by
  obtain ⟨found, found', hok, hok', hsub⟩ := hgh.reachable_subset ha .downstream
  rw [Graph.impact_eq, Graph.impact_eq, hok, hok', hgh.node?_eq]
  exact ⟨_, _, rfl, rfl, Impact.within_ofIds hsub h.node? a a⟩

theorem impact_eq (hgh : g.PartOf h) (hhg : h.PartOf g) (a : String) :
    g.impact a = h.impact a := by
  rw [Graph.impact_eq, Graph.impact_eq, hgh.reachable_eq hhg, hgh.node?_eq]

theorem hasCycles (hgh : g.PartOf h) (hg : g.hasCycles = true) : h.hasCycles = true := by
  obtain ⟨a, ha, haa⟩ := hasCycles_iff.1 hg
  exact hasCycles_iff.2 ⟨a, hgh.mem_ids_iff.1 ha, hgh.hasPath haa⟩

end PartOf

/-- A change to a node touches at least what a change to a node downstream of it does. -/
theorem impact_within_of_hasPath (hab : g.HasPath a b) :
    ∃ i j, g.impact a = .ok i ∧ g.impact b = .ok j ∧ j.Within i := by
  obtain ⟨down, hok, -, hmem⟩ := reachable_eq_ok hab.source_mem .downstream
  obtain ⟨further, hok', -, hmem'⟩ := reachable_eq_ok hab.target_mem .downstream
  have hsub : further ⊆ down := fun c hc => (hmem c).2 (TransGen.trans hab ((hmem' c).1 hc))
  rw [impact_eq, impact_eq, hok, hok']
  exact ⟨_, _, rfl, rfl, Impact.within_ofIds hsub g.node? b a⟩

/-- **More edges touch more.** In a graph that has the same nodes and at least the same edges, from
each node at least as much is reachable either way, and a change to it touches at least as much and
is on no lower a level. With the same edges, in whatever order and however often each is listed,
what is reachable, the impacts and whether there are cycles are the same, and so are the errors for
a text that is no node. In one graph, a change to a node touches at least what a change to a node
downstream of it does and is on no lower a level. -/
theorem touches_grows (g : Graph) :
    (∀ h : Graph, g.PartOf h →
      (∀ a ∈ g.ids, (∀ direction, ∃ found found', g.reachable a direction = .ok found ∧
          h.reachable a direction = .ok found' ∧ found ⊆ found') ∧
        ∃ i j, g.impact a = .ok i ∧ h.impact a = .ok j ∧ i.Within j) ∧
      (h.edges ⊆ g.edges →
        (∀ a direction, g.reachable a direction = h.reachable a direction) ∧
          (∀ a, g.impact a = h.impact a) ∧ g.hasCycles = h.hasCycles)) ∧
    ∀ a ∈ g.ids, ∃ down i, g.reachable a .downstream = .ok down ∧ g.impact a = .ok i ∧
      ∀ b ∈ down, ∃ j, g.impact b = .ok j ∧ j.Within i := by
  refine ⟨fun h hgh => ⟨fun a ha => ⟨hgh.reachable_subset ha, hgh.impact_within ha⟩,
    fun hedges => ?_⟩, fun a ha => ?_⟩
  · have hhg := hgh.symm hedges
    exact ⟨hgh.reachable_eq hhg, hgh.impact_eq hhg,
      Bool.eq_iff_iff.2 ⟨hgh.hasCycles, hhg.hasCycles⟩⟩
  · obtain ⟨down, hok, -, hmem⟩ := reachable_eq_ok ha .downstream
    have hi : g.impact a = .ok (Impact.ofIds g.node? a down) := by
      rw [impact_eq, hok]
      rfl
    refine ⟨down, _, hok, hi, fun b hb => ?_⟩
    obtain ⟨i, j, hi', hj, hwithin⟩ := impact_within_of_hasPath ((hmem b).1 hb)
    rw [hi] at hi'
    cases hi'
    exact ⟨j, hj, hwithin⟩

/-- The tables and the report field of `reported` in another order, with nothing behind the second
table and its only edge listed twice. -/
def unreported : Graph where
  nodes := reported.nodes.reverse
  edges := [⟨"a", "b"⟩, ⟨"a", "b"⟩]
  nodup_ids := by decide
  ends_known := by decide

theorem touches_grows_unreported :
    unreported.PartOf reported ∧
      (unreported.impact "a").map Impact.level = .ok .low ∧
      (reported.impact "a").map Impact.level = .ok .high ∧
      (∃ i j, unreported.impact "a" = .ok i ∧ reported.impact "a" = .ok j ∧ i.Within j) ∧
      (∃ down i, reported.reachable "a" .downstream = .ok down ∧ "r" ∈ down ∧
        reported.impact "a" = .ok i ∧ ∃ j, reported.impact "r" = .ok j ∧ j.Within i) := by
  have hpart : unreported.PartOf reported := ⟨List.reverse_perm _, by decide⟩
  have hlow : (unreported.impact "a").map Impact.level = .ok .low := by cbv
  have hhigh : (reported.impact "a").map Impact.level = .ok .high := by cbv
  have hanswer : reported.reachable "a" .downstream = .ok ["a", "b", "r"] := by cbv
  have hmore := (touches_grows unreported).1 reported hpart
  obtain ⟨down, i, hdown, hi, hwithin⟩ := (touches_grows reported).2 "a" (by decide)
  have hr : "r" ∈ down := by
    rw [hanswer] at hdown
    cases hdown
    decide
  exact ⟨hpart, hlow, hhigh, (hmore.1 "a" (by decide)).2, down, i, hdown, hr, hi, hwithin "r" hr⟩

end Graph

end DataGovernance
