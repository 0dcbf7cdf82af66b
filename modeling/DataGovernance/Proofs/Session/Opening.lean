import DataGovernance.Proofs.Fallible
import DataGovernance.Proofs.Session.WellFormed

/-!
# Why a session does not open

A snapshot may have several faults at once. It is looked through in a fixed order: the ids of the
elements, of the issues, of the matches and of the nodes, then the edges. The session that does not
open names the fault that comes first in this order, and of several in one list the one that stands
first there: the id of the first entity whose id occurred before, or the first edge that does not
join known nodes, with its source if that is unknown and with its target otherwise.

Key definitions: `Text.FirstRepeated`, `Lineage.FirstDangling`, `Snapshot.FirstFault`.
Key theorems: `Text.firstRepeated?_eq_some_iff`, `firstDangling?_eq_some_iff`, `Session.new_spec`.
-/

namespace DataGovernance

/-! ### The first fault of a list -/

namespace Text

/-- `s` is the first text of the list that occurred before it: the texts in front of it are all
different, and it is one of them. -/
def FirstRepeated (ss : List String) (s : String) : Prop :=
  ∃ front back, ss = front ++ s :: back ∧ front.Nodup ∧ s ∈ front

/-- A list is split at its head or behind it. -/
theorem exists_split_cons {P : List String → Prop} {s t : String} {rest : List String} :
    (∃ front back, t :: rest = front ++ s :: back ∧ P front) ↔
      t = s ∧ P [] ∨ ∃ front back, rest = front ++ s :: back ∧ P (t :: front) := by
  constructor
  · rintro ⟨front, back, heq, h⟩
    cases front with
    | nil => exact .inl ⟨(List.cons.inj heq).1, h⟩
    | cons u front =>
      obtain ⟨rfl, rfl⟩ := List.cons.inj heq
      exact .inr ⟨front, back, rfl, h⟩
  · rintro (⟨rfl, h⟩ | ⟨front, back, rfl, h⟩)
    · exact ⟨[], rest, rfl, h⟩
    · exact ⟨t :: front, back, rfl, h⟩

/-- What occurred before the list counts as repeated, too. -/
theorem firstRepeated?_eq_some_iff_of_seen {s : String} : ∀ {ss seen : List String},
    firstRepeated? seen ss = some s ↔
      ∃ front back, ss = front ++ s :: back ∧ front.Nodup ∧ (∀ t ∈ front, t ∉ seen) ∧
        (s ∈ seen ∨ s ∈ front)
  | [], seen => by simp [firstRepeated?]
  | t :: rest, seen => by
    rw [firstRepeated?, exists_split_cons]
    by_cases ht : t ∈ seen
    · have hbehind : ∀ front : List String, ¬∀ u ∈ t :: front, u ∉ seen :=
        fun front h => h t List.mem_cons_self ht
      simp only [if_pos ht, Option.some.injEq, hbehind, false_and, and_false, exists_false,
        or_false, List.nodup_nil, List.not_mem_nil, IsEmpty.forall_iff, implies_true, true_and]
      exact ⟨fun h => ⟨h, h ▸ ht⟩, And.left⟩
    · have hhead : ¬(t = s ∧ ([] : List String).Nodup ∧ (∀ u ∈ ([] : List String), u ∉ seen) ∧
          (s ∈ seen ∨ s ∈ [])) := by
        rintro ⟨rfl, -, -, h | h⟩
        · exact ht h
        · exact List.not_mem_nil h
      rw [if_neg ht, firstRepeated?_eq_some_iff_of_seen, or_iff_right hhead]
      refine exists_congr fun front => exists_congr fun back => and_congr_right fun _ => ?_
      have hseen : (∀ u ∈ t :: front, u ∉ seen) ↔ ∀ u ∈ front, u ∉ seen := by
        rw [List.forall_mem_cons]
        exact and_iff_right ht
      have hnew : (∀ u ∈ front, u ∉ t :: seen) ↔ t ∉ front ∧ ∀ u ∈ front, u ∉ seen := by
        simp only [List.mem_cons, not_or, forall_and]
        exact and_congr_left fun _ => ⟨fun h hmem => h t hmem rfl, fun h u hu he => h (he ▸ hu)⟩
      rw [hseen, hnew, List.nodup_cons, List.mem_cons, List.mem_cons]
      tauto

theorem firstRepeated?_eq_some_iff {ss : List String} {s : String} :
    firstRepeated? [] ss = some s ↔ FirstRepeated ss s := by
  rw [firstRepeated?_eq_some_iff_of_seen, FirstRepeated]
  simp only [List.not_mem_nil, not_false_eq_true, implies_true, true_and, false_or]

end Text

/-- The end of an edge that names no node is its source, or else its target. -/
theorem Edge.missing?_eq_some_iff {ids : List String} {e : Edge} {missing : String} :
    e.missing? ids = some missing ↔ e.source ∉ ids ∧ missing = e.source ∨
      e.source ∈ ids ∧ e.target ∉ ids ∧ missing = e.target := by
  unfold Edge.missing?
  by_cases hs : e.source ∈ ids <;> by_cases ht : e.target ∈ ids <;> simp [hs, ht, eq_comm]

/-- Of the edges that do not join known nodes, one stands first, and `missing` is the end of it that
names no node. If neither does, it is the source. -/
def Lineage.FirstDangling (l : Lineage) (e : Edge) (missing : String) : Prop :=
  ∃ front back, l.edges = front ++ e :: back ∧
    (∀ d ∈ front, d.source ∈ l.ids ∧ d.target ∈ l.ids) ∧
    (e.source ∉ l.ids ∧ missing = e.source ∨
      e.source ∈ l.ids ∧ e.target ∉ l.ids ∧ missing = e.target)

/-- Dangling edges are looked for from the front. -/
theorem firstDangling?_eq_findSome? (ids : List String) : ∀ edges : List Edge,
    firstDangling? ids edges = edges.findSome? fun e => (e.missing? ids).map fun id => (e, id)
  | [] => rfl
  | e :: rest => by
    rw [firstDangling?, List.findSome?_cons, firstDangling?_eq_findSome? ids rest]
    cases e.missing? ids <;> rfl

theorem firstDangling?_eq_some_iff {l : Lineage} {e : Edge} {missing : String} :
    firstDangling? l.ids l.edges = some (e, missing) ↔ l.FirstDangling e missing := by
  rw [firstDangling?_eq_findSome?, List.findSome?_eq_some_iff, Lineage.FirstDangling]
  simp only [Option.map_eq_some_iff, Option.map_eq_none_iff, Edge.missing?_eq_none_iff,
    Edge.missing?_eq_some_iff, Prod.mk.injEq]
  constructor
  · rintro ⟨front, d, back, heq, ⟨id, hid, rfl, rfl⟩, hfront⟩
    exact ⟨front, back, heq, hfront, hid⟩
  · rintro ⟨front, back, heq, hfront, hid⟩
    exact ⟨front, e, back, heq, ⟨missing, hid, rfl, rfl⟩, hfront⟩

/-! ### The checks -/

theorem checkIds_eq_error_iff {α : Type} [Entity α] {as : List α} {e : ChangeError} :
    checkIds as = .error e ↔
      ∃ id, Text.FirstRepeated (as.map Entity.id) id ∧ e = .duplicateId (Entity.kind α) id := by
  simp only [← Text.firstRepeated?_eq_some_iff]
  unfold checkIds
  cases Text.firstRepeated? [] (as.map Entity.id) <;> simp [eq_comm]

/-- The three collections are checked one after another. -/
theorem Snapshot.checkIds_eq_error_iff {s : Snapshot} {e : ChangeError} :
    s.checkIds = .error e ↔
      (∃ id, Text.FirstRepeated (s.elements.map Element.id) id ∧ e = .duplicateId .element id) ∨
      (s.elements.map Element.id).Nodup ∧
        ((∃ id, Text.FirstRepeated (s.issues.map Issue.id) id ∧ e = .duplicateId .issue id) ∨
        (s.issues.map Issue.id).Nodup ∧
          ∃ id, Text.FirstRepeated (s.reconciliation.map Match.currentId) id ∧
            e = .duplicateId .reconciliationMatch id) := by
  rw [Snapshot.checkIds, bind_eq_error_iff, bind_eq_error_iff,
    DataGovernance.checkIds_eq_error_iff, DataGovernance.checkIds_eq_error_iff,
    DataGovernance.checkIds_eq_error_iff, DataGovernance.checkIds_eq_ok_iff,
    DataGovernance.checkIds_eq_ok_iff]
  rfl

/-- The ids of the nodes are checked before the edges. -/
theorem Graph.ofLineage_eq_error_iff {l : Lineage} {e : LineageError} :
    Graph.ofLineage l = .error e ↔
      (∃ id, Text.FirstRepeated l.ids id ∧ e = .duplicateNode id) ∨
      l.ids.Nodup ∧ ∃ d missing, l.FirstDangling d missing ∧ e = .danglingEdge d missing := by
  simp only [← Text.firstRepeated?_eq_some_iff, ← Text.firstRepeated?_eq_none_iff,
    ← firstDangling?_eq_some_iff]
  unfold Graph.ofLineage
  split
  · rename_i id hr
    simp [hr, eq_comm]
  · rename_i hr
    split
    · rename_i d missing hd
      simp [hr, hd, eq_comm]
    · rename_i hd
      simp [hr, hd]

/-! ### Opening -/

/-- The first fault of a snapshot, as the error that names it. Each kind of fault counts only if
there is none of the kinds above it. -/
inductive Snapshot.FirstFault (s : Snapshot) : SessionError → Prop
  | element (id : String) (h : Text.FirstRepeated (s.elements.map Element.id) id) :
    FirstFault s (.change (.duplicateId .element id))
  | issue (id : String) (he : (s.elements.map Element.id).Nodup)
    (h : Text.FirstRepeated (s.issues.map Issue.id) id) :
    FirstFault s (.change (.duplicateId .issue id))
  | reconciliationMatch (id : String) (he : (s.elements.map Element.id).Nodup)
    (hi : (s.issues.map Issue.id).Nodup)
    (h : Text.FirstRepeated (s.reconciliation.map Match.currentId) id) :
    FirstFault s (.change (.duplicateId .reconciliationMatch id))
  | node (id : String) (he : (s.elements.map Element.id).Nodup)
    (hi : (s.issues.map Issue.id).Nodup) (hm : (s.reconciliation.map Match.currentId).Nodup)
    (h : Text.FirstRepeated (s.lineage.nodes.map Node.id) id) :
    FirstFault s (.lineage (.duplicateNode id))
  | edge (e : Edge) (missing : String) (he : (s.elements.map Element.id).Nodup)
    (hi : (s.issues.map Issue.id).Nodup) (hm : (s.reconciliation.map Match.currentId).Nodup)
    (hn : (s.lineage.nodes.map Node.id).Nodup) (h : s.lineage.FirstDangling e missing) :
    FirstFault s (.lineage (.danglingEdge e missing))

namespace Session

/-- A session does not open because its ids fail their check, or else because its lineage is no
graph. -/
theorem new_eq_error_cases {s : Snapshot} {rules : ResolutionRules} {e : SessionError} :
    new s rules = .error e ↔ (∃ c, s.checkIds = .error c ∧ e = .change c) ∨
      s.checkIds = .ok () ∧ ∃ l, Graph.ofLineage s.lineage = .error l ∧ e = .lineage l := by
  unfold new
  cases s.checkIds with
  | error c => simp [eq_comm]
  | ok _ => cases Graph.ofLineage s.lineage <;> simp [eq_comm]

theorem new_eq_error_iff {s : Snapshot} {rules : ResolutionRules} {e : SessionError} :
    new s rules = .error e ↔ s.FirstFault e := by
  rw [new_eq_error_cases, Snapshot.checkIds_eq_ok_iff]
  simp only [Snapshot.checkIds_eq_error_iff, Graph.ofLineage_eq_error_iff]
  constructor
  · rintro (⟨c, ⟨id, h, rfl⟩ | ⟨he, ⟨id, h, rfl⟩ | ⟨hi, id, h, rfl⟩⟩, rfl⟩ |
      ⟨⟨he, hi, hm⟩, l, ⟨id, h, rfl⟩ | ⟨hn, d, missing, h, rfl⟩, rfl⟩)
    · exact .element id h
    · exact .issue id he h
    · exact .reconciliationMatch id he hi h
    · exact .node id he hi hm h
    · exact .edge d missing he hi hm hn h
  · intro h
    cases h with
    | element id h => exact .inl ⟨_, .inl ⟨id, h, rfl⟩, rfl⟩
    | issue id he h => exact .inl ⟨_, .inr ⟨he, .inl ⟨id, h, rfl⟩⟩, rfl⟩
    | reconciliationMatch id he hi h => exact .inl ⟨_, .inr ⟨he, .inr ⟨hi, id, h, rfl⟩⟩, rfl⟩
    | node id he hi hm h => exact .inr ⟨⟨he, hi, hm⟩, _, .inl ⟨id, h, rfl⟩, rfl⟩
    | edge d missing he hi hm hn h =>
      exact .inr ⟨⟨he, hi, hm⟩, _, .inr ⟨hn, d, missing, h, rfl⟩, rfl⟩

/-- **A session opens exactly on the well-formed snapshots,** and on any other it names the first
fault. -/
theorem new_spec (s : Snapshot) (rules : ResolutionRules) :
    ((∃ σ, new s rules = .ok σ) ↔ s.WellFormed) ∧
      ∀ e, new s rules = .error e ↔ s.FirstFault e := by
  refine ⟨?_, fun e => new_eq_error_iff⟩
  simp only [new_eq_ok_iff]
  exact ⟨fun ⟨_, hs, _⟩ => hs, fun hs => ⟨_, hs, rfl⟩⟩

/-- Ids come before edges, and the edge that stands first counts, not the end that does. -/
example :
    new { lineage := {
      nodes := [{ id := "a", label := "", nodeType := .sourceTable }]
      edges := [⟨"a", "b"⟩, ⟨"c", "a"⟩] } } {} =
      .error (.lineage (.danglingEdge ⟨"a", "b"⟩ "b")) := rfl

end Session

end DataGovernance
