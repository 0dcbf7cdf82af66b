import DataGovernance.Lineage.Graph
import Mathlib.Data.Fintype.Card
import Mathlib.Data.List.Cycle
import Mathlib.Data.Set.Finite.Basic
import Mathlib.Logic.Relation

/-!
# Paths and cycles of a lineage graph

A path follows one or more edges, so a node has a path to itself only by way of a cycle. A cycle
visits its nodes once each and closes; an edge from a node to itself closes a cycle of one node. The
nodes on cycles are those with a path to themselves, and there is one wherever each of finitely many
nodes is led to by another of them.

Key definitions: `Graph.HasEdge`, `Graph.HasPath`, `Graph.Leads`, `Graph.OnCycle`.
Key theorems: `exists_simple_path`, `exists_transGen_self`, `Graph.onCycle_iff`.
-/

namespace DataGovernance

open Relation

/-! ### Paths along a relation -/

section

variable {α : Type} {r : α → α → Prop}

theorem transGen_of_isChain : ∀ {a b : α} {mid : List α}, (a :: (mid ++ [b])).IsChain r →
    TransGen r a b
  | a, b, [], h => by
    rw [List.nil_append, List.isChain_cons_cons] at h
    exact .single h.1
  | a, b, c :: mid, h => by
    rw [List.cons_append, List.isChain_cons_cons] at h
    exact .head h.1 (transGen_of_isChain h.2)

/-- Where there is a path there is one that comes to no place twice before it ends. -/
theorem exists_simple_path {a b : α} (h : TransGen r a b) :
    ∃ mid, (a :: mid).Nodup ∧ (a :: (mid ++ [b])).IsChain r := by
  induction h using TransGen.head_induction_on with
  | single hab => exact ⟨[], by simp, by simpa using hab⟩
  | @head a c hac _ ih =>
    obtain ⟨mid, hnodup, hchain⟩ := ih
    by_cases hmem : a ∈ c :: mid
    · -- the path comes back to its start, so it can begin there
      obtain ⟨front, back, heq⟩ := List.append_of_mem hmem
      rw [heq] at hnodup
      rw [← List.cons_append, heq, List.append_assoc] at hchain
      exact ⟨back, hnodup.of_append_right, hchain.right_of_append⟩
    · exact ⟨c :: mid, List.nodup_cons.2 ⟨hmem, hnodup⟩, .cons_cons hac hchain⟩

/-- Going back from place to place within a list comes around at last. -/
theorem exists_transGen_self {as : List α} (hne : as ≠ []) (h : ∀ b ∈ as, ∃ a ∈ as, r a b) :
    ∃ a ∈ as, TransGen r a a := by
  by_contra hnone
  have hirrefl : Std.Irrefl fun a b : {a // a ∈ as} => TransGen r a b :=
    ⟨fun a ha => hnone ⟨a, a.2, ha⟩⟩
  have htrans : IsTrans {a // a ∈ as} fun a b => TransGen r a b :=
    ⟨fun _ _ _ hab hbc => hab.trans hbc⟩
  have hfinite : Finite {a // a ∈ as} := (List.finite_toSet as).to_subtype
  have hwf := Finite.wellFounded_of_trans_of_irrefl fun a b : {a // a ∈ as} => TransGen r a b
  obtain ⟨first, hfirst⟩ := List.exists_mem_of_ne_nil as hne
  obtain ⟨b, -, hmin⟩ := hwf.has_min Set.univ ⟨⟨first, hfirst⟩, trivial⟩
  obtain ⟨a, ha, hab⟩ := h b b.2
  exact hmin ⟨a, ha⟩ trivial (.single hab)

end

namespace Graph

variable {g : Graph} {a b : String}

/-- An edge leads from the one node to the other. -/
def HasEdge (g : Graph) (a b : String) : Prop := ⟨a, b⟩ ∈ g.edges

/-- One or more edges lead from the one node to the other. -/
def HasPath (g : Graph) : String → String → Prop := TransGen g.HasEdge

/-- One or more edges lead from the one node to the other, going the given way. -/
def Leads (g : Graph) : Direction → String → String → Prop
  | .downstream, a, b => g.HasPath a b
  | .upstream, a, b => g.HasPath b a

/-- A node lies on a cycle that comes to each of its nodes once. -/
def OnCycle (g : Graph) (a : String) : Prop :=
  ∃ c : Cycle String, c.Nodup ∧ c.Chain g.HasEdge ∧ a ∈ c

/-- A path ends at a node. -/
theorem HasPath.target_mem (h : g.HasPath a b) : b ∈ g.ids := by
  obtain ⟨c, -, hcb⟩ := TransGen.tail'_iff.1 h
  exact (g.ends_known _ hcb).2

/-- A path begins at a node. -/
theorem HasPath.source_mem (h : g.HasPath a b) : a ∈ g.ids := by
  obtain ⟨c, hac, -⟩ := TransGen.head'_iff.1 h
  exact (g.ends_known _ hac).1

theorem Leads.target_mem {direction : Direction} (h : g.Leads direction a b) : b ∈ g.ids := by
  cases direction with
  | downstream => exact HasPath.target_mem h
  | upstream => exact HasPath.source_mem h

/-- The nodes on cycles are those with a path to themselves. -/
theorem onCycle_iff : g.OnCycle a ↔ g.HasPath a a := by
  constructor
  · rintro ⟨c, -, hchain, hmem⟩
    induction c using Quotient.inductionOn' with
    | h as =>
      obtain ⟨front, back, rfl⟩ := List.append_of_mem (Cycle.mem_coe_iff.1 hmem)
      -- a cycle may be read from any of its nodes on
      have hturn : ((front ++ a :: back : List String) : Cycle String) =
          (a :: (back ++ front) : List String) := Cycle.coe_eq_coe.2 List.isRotated_append
      change Cycle.Chain g.HasEdge ((front ++ a :: back : List String) : Cycle String) at hchain
      rw [hturn, Cycle.chain_coe_cons] at hchain
      exact transGen_of_isChain hchain
  · intro h
    obtain ⟨mid, hnodup, hchain⟩ := exists_simple_path h
    exact ⟨(a :: mid : List String), Cycle.nodup_coe_iff.2 hnodup,
      (Cycle.chain_coe_cons _ _ _).2 hchain, Cycle.mem_coe_iff.2 List.mem_cons_self⟩

end Graph

end DataGovernance
