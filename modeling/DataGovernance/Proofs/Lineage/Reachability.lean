import DataGovernance.Proofs.Lineage.Path
import DataGovernance.Proofs.Text.Order

/-!
# The search finds what paths lead to

The search takes an id from its queue, finds those that are one step away and have not been reached
yet, and puts them at the end of the queue. What it finds in all is what steps lead to from the
queue on ways that keep to the ids not reached yet: a way that does not is cut off where it last
meets an id that was reached before. Of a whole graph nothing has been reached at the start, not
even the node that the search begins with, so that one is found only if a path leads back to it.

Key theorems: `Graph.mem_search_iff`, `Graph.nodup_search`, `Graph.reachable_eq_ok`,
`Graph.reachable_spec`.
-/

namespace DataGovernance

open Relation

namespace Graph

theorem mem_inside {there ids : List String} {s : String} :
    s ∈ inside there ids ↔ s ∈ ids ∧ s ∈ there := by
  simp [inside]

theorem mem_outside {there ids : List String} {s : String} :
    s ∈ outside there ids ↔ s ∈ ids ∧ s ∉ there := by
  simp [outside]

/-! ### The search -/

/-- One step leads from the one id to the other, and the other one is in a list. -/
def StepsWithin (next : String → List String) (ids : List String) (a b : String) : Prop :=
  b ∈ next a ∧ b ∈ ids

variable {next : String → List String}

/-- A way through the ids that are not reached yet meets those next to the first of the queue or
goes on without them. -/
theorem found_or_stepsWithin {id : String} {queue unreached : List String} {a s : String}
    (ha : a ∈ id :: queue) (h : TransGen (StepsWithin next unreached) a s) :
    s ∈ inside (next id) unreached ∨ ∃ b ∈ queue ++ inside (next id) unreached,
      TransGen (StepsWithin next (outside (next id) unreached)) b s := by
  -- on the length of the way, its last step taken off
  induction h with
  | @single s hs =>
    by_cases hnext : s ∈ next id
    · exact .inl (mem_inside.2 ⟨hs.2, hnext⟩)
    · have hne : a ≠ id := fun he => hnext (he ▸ hs.1)
      have hqueue : a ∈ queue := (List.mem_cons.1 ha).resolve_left hne
      exact .inr ⟨a, List.mem_append_left _ hqueue, .single ⟨hs.1, mem_outside.2 ⟨hs.2, hnext⟩⟩⟩
  | @tail c s _ hs ih =>
    by_cases hnext : s ∈ next id
    · exact .inl (mem_inside.2 ⟨hs.2, hnext⟩)
    · have hstep : StepsWithin next (outside (next id) unreached) c s :=
        ⟨hs.1, mem_outside.2 ⟨hs.2, hnext⟩⟩
      rcases ih with hfound | ⟨b, hb, hbc⟩
      · exact .inr ⟨c, List.mem_append_right _ hfound, .single hstep⟩
      · exact .inr ⟨b, hb, hbc.tail hstep⟩

/-- A search finds what steps lead to from its queue on ways that keep to what has not been reached
yet. -/
theorem mem_search_iff {queue unreached : List String} {s : String} :
    s ∈ search next queue unreached ↔
      ∃ a ∈ queue, TransGen (StepsWithin next unreached) a s := by
  fun_induction search next queue unreached with
  | case1 unreached => simp
  | case2 unreached id queue there ih =>
    rw [List.mem_append, ih]
    constructor
    · have hmono : StepsWithin next (outside there unreached) ≤ StepsWithin next unreached :=
        fun _ _ hstep => ⟨hstep.1, (mem_outside.1 hstep.2).1⟩
      have hnew : ∀ b ∈ inside there unreached, StepsWithin next unreached id b :=
        fun b hb => (mem_inside.1 hb).symm
      rintro (hs | ⟨a, ha, has⟩)
      · exact ⟨id, List.mem_cons_self, .single (hnew s hs)⟩
      · have has' := TransGen.mono hmono _ _ has
        rcases List.mem_append.1 ha with ha | ha
        · exact ⟨a, List.mem_cons_of_mem id ha, has'⟩
        · exact ⟨id, List.mem_cons_self, .head (hnew a ha) has'⟩
    · rintro ⟨a, ha, has⟩
      exact found_or_stepsWithin ha has

/-- What a search finds had not been reached. -/
theorem mem_of_mem_search {queue unreached : List String} {s : String}
    (h : s ∈ search next queue unreached) : s ∈ unreached := by
  obtain ⟨a, -, has⟩ := mem_search_iff.1 h
  obtain ⟨b, -, hbs⟩ := TransGen.tail'_iff.1 has
  exact hbs.2

/-- A search finds nothing twice. -/
theorem nodup_search {queue unreached : List String} (h : unreached.Nodup) :
    (search next queue unreached).Nodup := by
  fun_induction search next queue unreached with
  | case1 unreached => exact List.nodup_nil
  | case2 unreached id queue there ih =>
    refine List.nodup_append.2 ⟨h.filter _, ih (h.filter _), ?_⟩
    rintro s hs t ht rfl
    exact (mem_outside.1 (mem_of_mem_search ht)).2 (mem_inside.1 hs).2

/-! ### The search of a graph -/

variable {g : Graph} {direction : Direction} {a b : String}

theorem mem_neighbours_iff :
    b ∈ g.neighbours direction a ↔
      match direction with
      | .downstream => g.HasEdge a b
      | .upstream => g.HasEdge b a := by
  cases direction with
  | downstream =>
    simp only [neighbours, HasEdge, List.mem_map, List.mem_filter, beq_iff_eq]
    constructor
    · rintro ⟨e, ⟨he, rfl⟩, rfl⟩
      exact he
    · exact fun h => ⟨⟨a, b⟩, ⟨h, rfl⟩, rfl⟩
  | upstream =>
    simp only [neighbours, HasEdge, List.mem_map, List.mem_filter, beq_iff_eq]
    constructor
    · rintro ⟨e, ⟨he, rfl⟩, rfl⟩
      exact he
    · exact fun h => ⟨⟨b, a⟩, ⟨h, rfl⟩, rfl⟩

/-- Edges keep to the nodes, so the way through the nodes is every way. -/
theorem transGen_stepsWithin_iff :
    TransGen (StepsWithin (g.neighbours direction) g.ids) a b ↔ g.Leads direction a b := by
  cases direction with
  | downstream =>
    have heq : StepsWithin (g.neighbours .downstream) g.ids = g.HasEdge := by
      funext c d
      refine propext ⟨fun h => mem_neighbours_iff.1 h.1, fun h => ?_⟩
      exact ⟨mem_neighbours_iff.2 h, (g.ends_known _ h).2⟩
    rw [heq]
    rfl
  | upstream =>
    have heq : StepsWithin (g.neighbours .upstream) g.ids = Function.swap g.HasEdge := by
      funext c d
      refine propext ⟨fun h => mem_neighbours_iff.1 h.1, fun h => ?_⟩
      exact ⟨mem_neighbours_iff.2 h, (g.ends_known _ h).1⟩
    rw [heq, transGen_swap]
    rfl

/-- From a node one can ask for what is reachable, and the answer is what paths lead to. -/
theorem reachable_eq_ok (ha : a ∈ g.ids) (direction : Direction) :
    ∃ found, g.reachable a direction = .ok found ∧ found.Pairwise (· < ·) ∧
      ∀ b, b ∈ found ↔ g.Leads direction a b := by
  refine ⟨_, if_pos ha, Text.pairwise_lt_sorted (nodup_search g.nodup_ids), fun b => ?_⟩
  rw [Text.mem_sorted, mem_search_iff]
  simp [transGen_stepsWithin_iff]

/-- From what is no node one cannot. -/
theorem reachable_eq_error_iff :
    g.reachable a direction = .error (.unknownNode a) ↔ a ∉ g.ids := by
  unfold reachable
  split <;> simp_all

/-- **What is reachable is what paths lead to.** Asked for a text that is no node, and only then, a
graph says so. Otherwise it answers with the nodes that one or more edges lead to, going the given
way, each once and in code point order; the node itself is among them exactly when it lies on a
cycle. -/
theorem reachable_spec (g : Graph) (a : String) (direction : Direction) :
    (g.reachable a direction = .error (.unknownNode a) ↔ a ∉ g.ids) ∧
      (a ∈ g.ids → ∃ found, g.reachable a direction = .ok found ∧ found.Pairwise (· < ·) ∧
        (∀ b, b ∈ found ↔ b ∈ g.ids ∧ g.Leads direction a b) ∧ (a ∈ found ↔ g.OnCycle a)) := by
  refine ⟨reachable_eq_error_iff, fun ha => ?_⟩
  obtain ⟨found, hok, hsorted, hmem⟩ := reachable_eq_ok ha direction
  refine ⟨found, hok, hsorted, fun b => ?_, ?_⟩
  · rw [hmem]
    exact ⟨fun h => ⟨h.target_mem, h⟩, And.right⟩
  · rw [hmem, onCycle_iff]
    cases direction <;> rfl

/-- Two nodes that feed each other, one that feeds itself, and one that the others feed. -/
def looped : Graph where
  nodes := ["d", "b", "c", "a"].map fun id => { id, label := id, nodeType := .transformation }
  edges := [⟨"a", "b"⟩, ⟨"b", "a"⟩, ⟨"b", "c"⟩, ⟨"b", "c"⟩, ⟨"d", "d"⟩, ⟨"d", "c"⟩]
  nodup_ids := by decide
  ends_known := by decide

theorem reachable_spec_looped :
    "b" ∈ looped.ids ∧ looped.reachable "b" .downstream = .ok ["a", "b", "c"] ∧
      looped.OnCycle "b" ∧ looped.Leads .downstream "b" "c" ∧
      ¬looped.Leads .downstream "b" "d" := by
  have hb : "b" ∈ looped.ids := by decide
  have hanswer : looped.reachable "b" .downstream = .ok ["a", "b", "c"] := by cbv
  obtain ⟨found, hok, -, hmem, hcycle⟩ := (reachable_spec looped "b" .downstream).2 hb
  rw [hanswer] at hok
  cases hok
  refine ⟨hb, hanswer, hcycle.1 (by decide), ((hmem "c").1 (by decide)).2, fun hd => ?_⟩
  exact absurd ((hmem "d").2 ⟨by decide, hd⟩) (by decide)

end Graph

end DataGovernance
