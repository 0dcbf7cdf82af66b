import DataGovernance.Proofs.Lineage.Reachability

/-!
# Traversals agree

The search forward, the search backward and the test for cycles are made in three ways and must tell
of the same paths. What nothing within the list leads to is taken away from the list of nodes again
and again. A node that is left has one before it that is left too, so something is left only if
there is a cycle; and the nodes of a cycle keep each other from being taken away.

Key theorems: `Graph.hasCycles_iff`, `Graph.traversals_agree`.
-/

namespace DataGovernance

open Relation

namespace Graph

/-! ### The core of a list -/

variable {edges : List Edge} {ids : List String}

theorem mem_fed_iff {b : String} :
    b ∈ fed edges ids ↔ b ∈ ids ∧ ∃ a ∈ ids, (⟨a, b⟩ : Edge) ∈ edges := by
  simp only [fed, mem_inside, List.mem_map, List.mem_filter, List.contains_iff_mem]
  refine and_congr_right fun _ => ⟨?_, ?_⟩
  · rintro ⟨e, ⟨he, hs⟩, rfl⟩
    exact ⟨e.source, hs, he⟩
  · rintro ⟨a, ha, he⟩
    exact ⟨⟨a, b⟩, ⟨he, ha⟩, rfl⟩

/-- An edge leads to each node of the core from within the core. -/
theorem exists_edge_of_mem_core {b : String} (h : b ∈ core edges ids) :
    ∃ a ∈ core edges ids, (⟨a, b⟩ : Edge) ∈ edges := by
  fun_induction core edges ids with
  | case1 ids hlt ih => exact ih h
  | case2 ids hge =>
    -- nothing is taken away any more
    have hfed : fed edges ids = ids :=
      List.filter_sublist.eq_of_length_le (Nat.not_lt.1 hge)
    rw [← hfed] at h
    exact (mem_fed_iff.1 h).2

/-- What is led to from among itself stays in the core. -/
theorem mem_core_of_fed {P : String → Prop}
    (hP : ∀ b, P b → ∃ a, P a ∧ (⟨a, b⟩ : Edge) ∈ edges) (hids : ∀ b, P b → b ∈ ids) {b : String}
    (hb : P b) : b ∈ core edges ids := by
  fun_induction core edges ids with
  | case1 ids hlt ih =>
    refine ih fun b hb => ?_
    obtain ⟨a, ha, hab⟩ := hP b hb
    exact mem_fed_iff.2 ⟨hids b hb, a, hids a ha, hab⟩
  | case2 ids hge => exact hids b hb

variable {g : Graph}

/-- The test for cycles finds out whether some node has a path to itself. -/
theorem hasCycles_iff : g.hasCycles = true ↔ ∃ a ∈ g.ids, g.HasPath a a := by
  have hcore : g.hasCycles = true ↔ core g.edges g.ids ≠ [] := by
    simp [hasCycles]
  rw [hcore]
  constructor
  · intro hne
    obtain ⟨a, -, ha⟩ := exists_transGen_self hne fun b hb => exists_edge_of_mem_core hb
    exact ⟨a, HasPath.source_mem ha, ha⟩
  · rintro ⟨a, -, ha⟩
    -- the nodes that are both behind `a` and before it
    have hmem : a ∈ core g.edges g.ids := by
      refine mem_core_of_fed (P := fun b => g.HasPath a b ∧ g.HasPath b a) ?_ ?_ ⟨ha, ha⟩
      · rintro b ⟨hab, hba⟩
        obtain ⟨c, hac, hcb⟩ := TransGen.tail'_iff.1 hab
        exact ⟨c, ⟨TransGen.trans_left ha hac, TransGen.head hcb hba⟩, hcb⟩
      · exact fun b hb => hb.1.target_mem
    exact List.ne_nil_of_mem hmem

/-- **Traversals agree.** One node is downstream of another exactly when the other is upstream of
it; what is downstream of a node that is downstream of another is downstream of that one; and a
graph has cycles exactly when some node is downstream of itself. -/
theorem traversals_agree (g : Graph) :
    (∀ a ∈ g.ids, ∀ b ∈ g.ids, ∃ downA downB upB,
      g.reachable a .downstream = .ok downA ∧ g.reachable b .downstream = .ok downB ∧
        g.reachable b .upstream = .ok upB ∧ (b ∈ downA ↔ a ∈ upB) ∧
        (b ∈ downA → downB ⊆ downA)) ∧
    (g.hasCycles = true ↔
      ∃ a ∈ g.ids, ∃ down, g.reachable a .downstream = .ok down ∧ a ∈ down) := by
  constructor
  · intro a ha b hb
    obtain ⟨downA, hdownA, -, hmemA⟩ := reachable_eq_ok ha .downstream
    obtain ⟨downB, hdownB, -, hmemB⟩ := reachable_eq_ok hb .downstream
    obtain ⟨upB, hupB, -, hmemUp⟩ := reachable_eq_ok hb .upstream
    refine ⟨downA, downB, upB, hdownA, hdownB, hupB, (hmemA b).trans (hmemUp a).symm, ?_⟩
    intro hab c hbc
    exact (hmemA c).2 (TransGen.trans ((hmemA b).1 hab) ((hmemB c).1 hbc))
  · rw [hasCycles_iff]
    refine exists_congr fun a => and_congr_right fun ha => ?_
    obtain ⟨down, hdown, -, hmem⟩ := reachable_eq_ok ha .downstream
    constructor
    · exact fun hpath => ⟨down, hdown, (hmem a).2 hpath⟩
    · rintro ⟨found, hfound, haf⟩
      rw [hdown] at hfound
      cases hfound
      exact (hmem a).1 haf

theorem traversals_agree_looped :
    "a" ∈ looped.ids ∧ "b" ∈ looped.ids ∧
      (∃ upB, looped.reachable "b" .upstream = .ok upB ∧ "a" ∈ upB) ∧
      (∃ downB, looped.reachable "b" .downstream = .ok downB ∧ downB ⊆ ["a", "b", "c"]) ∧
      looped.hasCycles = true := by
  have ha : "a" ∈ looped.ids := by decide
  have hb : "b" ∈ looped.ids := by decide
  have hanswer : looped.reachable "a" .downstream = .ok ["a", "b", "c"] := by cbv
  obtain ⟨hpairs, hcycles⟩ := traversals_agree looped
  obtain ⟨downA, downB, upB, hdownA, hdownB, hupB, hiff, hsubset⟩ := hpairs "a" ha "b" hb
  rw [hanswer] at hdownA
  cases hdownA
  exact ⟨ha, hb, ⟨upB, hupB, hiff.1 (by decide)⟩, ⟨downB, hdownB, hsubset (by decide)⟩,
    hcycles.2 ⟨"a", ha, _, hanswer, by decide⟩⟩

end Graph

end DataGovernance
