import DataGovernance.Lineage.Basic
import DataGovernance.Text.Distinct

/-!
# Lineage graphs

A lineage is a graph when its nodes have different ids and its edges join known nodes. From a node,
a search follows the edges one way and finds every node that at least one edge leads to, so the node
itself is found when it lies on a cycle. A graph has a cycle when something is left after the nodes
that nothing leads to have been taken away again and again.

Key definitions: `Direction`, `LineageError`, `Graph`, `Graph.ofLineage`, `Graph.reachable`,
`Graph.hasCycles`, `Graph.stats`.
Key theorems: `firstDangling?_eq_none_iff`.
-/

namespace DataGovernance

/-- The way in which edges are followed. -/
inductive Direction where
  | downstream
  | upstream
  deriving DecidableEq, Repr

instance : Vocabulary Direction where
  members := [.downstream, .upstream]
  word
    | .downstream => "downstream"
    | .upstream => "upstream"
  mem_members a := by cases a <;> decide
  nodup_words := by decide

/-- What can be wrong with a lineage or with a question about it. -/
inductive LineageError where
  | duplicateNode (id : String)
  | danglingEdge (edge : Edge) (missing : String)
  | unknownNode (id : String)
  deriving DecidableEq, Repr

/-- The wording of a lineage error. -/
def LineageError.message : LineageError → String
  | duplicateNode id => "duplicate lineage node id '" ++ id ++ "'"
  | danglingEdge edge missing =>
    "edge " ++ edge.source ++ " -> " ++ edge.target ++ " references unknown node '" ++ missing ++
      "'"
  | unknownNode id => "unknown lineage node '" ++ id ++ "'"

/-- The ids of the nodes. -/
def Lineage.ids (l : Lineage) : List String := l.nodes.map Node.id

/-- The end of an edge that names no node; of two the source. -/
def Edge.missing? (ids : List String) (e : Edge) : Option String :=
  if e.source ∉ ids then some e.source else if e.target ∉ ids then some e.target else none

/-- The first edge with an end that names no node, and that end. -/
def firstDangling? (ids : List String) : List Edge → Option (Edge × String)
  | [] => none
  | e :: rest =>
    match e.missing? ids with
    | some id => some (e, id)
    | none => firstDangling? ids rest

theorem Edge.missing?_eq_none_iff {ids : List String} {e : Edge} :
    e.missing? ids = none ↔ e.source ∈ ids ∧ e.target ∈ ids := by
  unfold Edge.missing?
  split
  · simp_all
  · split <;> simp_all

theorem firstDangling?_eq_none_iff {ids : List String} {edges : List Edge} :
    firstDangling? ids edges = none ↔ ∀ e ∈ edges, e.source ∈ ids ∧ e.target ∈ ids := by
  induction edges with
  | nil => simp [firstDangling?]
  | cons e rest ih =>
    simp only [firstDangling?, List.forall_mem_cons, ← Edge.missing?_eq_none_iff] at *
    split <;> simp_all

/-- A lineage whose nodes have different ids and whose edges join known nodes. -/
structure Graph extends Lineage where
  nodup_ids : toLineage.ids.Nodup
  ends_known : ∀ e ∈ edges, e.source ∈ toLineage.ids ∧ e.target ∈ toLineage.ids

namespace Graph

/-- The graph of a lineage. Ids are checked before edges. -/
def ofLineage (l : Lineage) : Except LineageError Graph :=
  match hr : Text.firstRepeated? [] l.ids with
  | some id => .error (.duplicateNode id)
  | none =>
    match hd : firstDangling? l.ids l.edges with
    | some (e, id) => .error (.danglingEdge e id)
    | none =>
      .ok {
        toLineage := l
        nodup_ids := Text.firstRepeated?_eq_none_iff.1 hr
        ends_known := firstDangling?_eq_none_iff.1 hd }

/-- The node with an id. -/
def node? (g : Graph) (id : String) : Option Node := g.nodes.find? fun n => n.id == id

/-! ### Reachability -/

/-- The nodes that one edge leads to, going the given way. -/
def neighbours (g : Graph) (direction : Direction) (id : String) : List String :=
  match direction with
  | .downstream => (g.edges.filter fun e => e.source == id).map Edge.target
  | .upstream => (g.edges.filter fun e => e.target == id).map Edge.source

/-- The ids that are in a list. -/
def inside (there ids : List String) : List String := ids.filter there.contains

/-- The ids that are not in a list. -/
def outside (there ids : List String) : List String := ids.filter fun s => !there.contains s

theorem length_inside_add_length_outside (there ids : List String) :
    (inside there ids).length + (outside there ids).length = ids.length := by
  induction ids with
  | nil => rfl
  | cons s ids ih =>
    simp only [inside, outside, List.filter_cons] at *
    split <;> simp_all <;> omega

/-- Searches from the ids of a queue. Each id that a step of `next` leads to and that has not been
reached yet is found once and joins the queue. -/
def search (next : String → List String) (queue unreached : List String) : List String :=
  match queue with
  | [] => []
  | id :: queue =>
    let there := next id
    inside there unreached ++
      search next (queue ++ inside there unreached) (outside there unreached)
termination_by queue.length + unreached.length
decreasing_by
  have := length_inside_add_length_outside (next id) unreached
  simp only [List.length_append, List.length_cons]
  omega

/-- The ids of the nodes that one or more edges lead to, going the given way, in code point
order. -/
def reachable (g : Graph) (id : String) (direction : Direction) :
    Except LineageError (List String) :=
  if id ∈ g.ids then .ok (Text.sorted (search (g.neighbours direction) [id] g.ids))
  else .error (.unknownNode id)

/-! ### Cycles -/

/-- The ids out of a list that an edge from within the list leads to. -/
def fed (edges : List Edge) (ids : List String) : List String :=
  inside ((edges.filter fun e => ids.contains e.source).map Edge.target) ids

/-- What is left of a list after the ids that nothing in it leads to have been taken away until
there are none. -/
def core (edges : List Edge) (ids : List String) : List String :=
  if (fed edges ids).length < ids.length then core edges (fed edges ids) else ids
termination_by ids.length

/-- Whether some node leads back to itself. -/
def hasCycles (g : Graph) : Bool := !(core g.edges g.ids).isEmpty

/-! ### Figures -/

/-- The size and shape of a graph. -/
structure Stats where
  nodeCount : Nat
  edgeCount : Nat
  sourceTables : Nat
  reportFields : Nat
  hasCycles : Bool
  deriving DecidableEq, Repr

/-- The figures of a graph. -/
def stats (g : Graph) : Stats where
  nodeCount := g.nodes.length
  edgeCount := g.edges.length
  sourceTables := g.nodes.countP fun n => n.nodeType == .sourceTable
  reportFields := g.nodes.countP fun n => n.nodeType == .reportField
  hasCycles := g.hasCycles

end Graph

end DataGovernance
