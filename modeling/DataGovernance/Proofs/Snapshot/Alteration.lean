import DataGovernance.Proofs.Record.Alteration
import DataGovernance.Proofs.Snapshot.RoundTrip

/-!
# Snapshot documents that say the same

The twelve kinds of records in a snapshot have orderly shapes. An alteration of records is made
anywhere in the document of a snapshot by way of the members that hold records. So a snapshot is
read as before when any of its record objects is reordered, gets members of no meaning, or has a
default written out or left out, and is refused when a member is missing anywhere that has to be
there.

Key definitions: the `within` of each record.
Key theorems: the `orderly_shape` and `turns_within` of each record, `Snapshot.ofText_altered`.
-/

namespace DataGovernance

open Json Record Record.Codec Record.Field

/-- An alteration turns the answers of every orderly shape. -/
def Record.RecordAlteration.Turns (alter : RecordAlteration) (source : Source)
    (failure : Option ReadError) : Prop :=
  ∀ {ρ : Type} {shape : Shape ρ}, shape.Orderly →
    shape.codec.Turns source (alter ρ shape) failure

variable {alter : RecordAlteration} {source : Source} {failure : Option ReadError}

/-! ### Elements -/

theorem Owner.orderly_shape : Owner.shape.Orderly where
  toLawful := lawful_shape
  set_get := by simp [shape, needs, allows]
  set_comm := by simp [shape, needs, allows]

/-- An owner is altered. -/
def Owner.within (alter : RecordAlteration) : Alteration := Owner.shape.Within alter []

theorem Owner.turns_within (h : alter.Turns source failure) :
    Owner.shape.codec.Turns source (within alter) failure :=
  lawful_shape.turns_within (h orderly_shape) (by simp)

theorem LineageInfo.orderly_shape : LineageInfo.shape.Orderly where
  toLawful := lawful_shape
  set_get := by simp [shape, needs, allows]
  set_comm := by simp [shape, needs, allows]

/-- Lineage information is altered. -/
def LineageInfo.within (alter : RecordAlteration) : Alteration := LineageInfo.shape.Within alter []

theorem LineageInfo.turns_within (h : alter.Turns source failure) :
    LineageInfo.shape.codec.Turns source (within alter) failure :=
  lawful_shape.turns_within (h orderly_shape) (by simp)

theorem Element.orderly_shape : Element.shape.Orderly where
  toLawful := lawful_shape
  set_get := by simp [shape, needs, allows]
  set_comm := by simp [shape, needs, allows]

/-- An element is altered, or a record in it. -/
def Element.within (alter : RecordAlteration) : Alteration :=
  Element.shape.Within alter
    [("owner", Owner.within alter), ("lineage_info", LineageInfo.within alter)]

theorem Element.turns_within (h : alter.Turns source failure) :
    Element.shape.codec.Turns source (within alter) failure := by
  refine lawful_shape.turns_within (h orderly_shape) ?_
  simp only [List.forall_mem_cons]
  exact ⟨⟨_, rfl, (Owner.turns_within h).option⟩, ⟨_, rfl, (LineageInfo.turns_within h).option⟩,
    by simp⟩

/-! ### Issues -/

theorem Evidence.orderly_shape : Evidence.shape.Orderly where
  toLawful := lawful_shape
  set_get := by simp [shape, needs, allows]
  set_comm := by simp [shape, needs, allows]

/-- A piece of evidence is altered. -/
def Evidence.within (alter : RecordAlteration) : Alteration := Evidence.shape.Within alter []

theorem Evidence.turns_within (h : alter.Turns source failure) :
    Evidence.shape.codec.Turns source (within alter) failure :=
  lawful_shape.turns_within (h orderly_shape) (by simp)

theorem Resolution.orderly_shape : Resolution.shape.Orderly where
  toLawful := lawful_shape
  set_get := by simp [shape, allows]
  set_comm := by simp [shape, allows]

/-- A resolution is altered, or a piece of its evidence. -/
def Resolution.within (alter : RecordAlteration) : Alteration :=
  Resolution.shape.Within alter [("evidence", InItem (Evidence.within alter))]

theorem Resolution.turns_within (h : alter.Turns source failure) :
    Resolution.shape.codec.Turns source (within alter) failure := by
  refine lawful_shape.turns_within (h orderly_shape) ?_
  simp only [List.forall_mem_cons]
  exact ⟨⟨_, rfl, (Evidence.turns_within h).list⟩, by simp⟩

theorem Issue.orderly_shape : Issue.shape.Orderly where
  toLawful := lawful_shape
  set_get := by simp [shape, needs, allows]
  set_comm := by simp [shape, needs, allows]

/-- An issue is altered, or its resolution. -/
def Issue.within (alter : RecordAlteration) : Alteration :=
  Issue.shape.Within alter [("resolution", Resolution.within alter)]

theorem Issue.turns_within (h : alter.Turns source failure) :
    Issue.shape.codec.Turns source (within alter) failure := by
  refine lawful_shape.turns_within (h orderly_shape) ?_
  simp only [List.forall_mem_cons]
  exact ⟨⟨_, rfl, (Resolution.turns_within h).option⟩, by simp⟩

/-! ### Reconciliation -/

theorem Match.orderly_shape : Match.shape.Orderly where
  toLawful := lawful_shape
  set_get := by simp [shape, needs, allows]
  set_comm := by simp [shape, needs, allows]

/-- A match is altered. -/
def Match.within (alter : RecordAlteration) : Alteration := Match.shape.Within alter []

theorem Match.turns_within (h : alter.Turns source failure) :
    Match.shape.codec.Turns source (within alter) failure :=
  lawful_shape.turns_within (h orderly_shape) (by simp)

/-! ### Lineage -/

theorem Node.orderly_shape : Node.shape.Orderly where
  toLawful := lawful_shape
  set_get := by simp [shape, needs, allows]
  set_comm := by simp [shape, needs, allows]

/-- A node is altered. -/
def Node.within (alter : RecordAlteration) : Alteration := Node.shape.Within alter []

theorem Node.turns_within (h : alter.Turns source failure) :
    Node.shape.codec.Turns source (within alter) failure :=
  lawful_shape.turns_within (h orderly_shape) (by simp)

theorem Edge.orderly_shape : Edge.shape.Orderly where
  toLawful := lawful_shape
  set_get := by simp [shape, needs]
  set_comm := by simp [shape, needs]

/-- An edge is altered. -/
def Edge.within (alter : RecordAlteration) : Alteration := Edge.shape.Within alter []

theorem Edge.turns_within (h : alter.Turns source failure) :
    Edge.shape.codec.Turns source (within alter) failure :=
  lawful_shape.turns_within (h orderly_shape) (by simp)

theorem Lineage.orderly_shape : Lineage.shape.Orderly where
  toLawful := lawful_shape
  set_get := by simp [shape, allows]
  set_comm := by simp [shape, allows]

/-- The lineage is altered, or a node or edge of it. -/
def Lineage.within (alter : RecordAlteration) : Alteration :=
  Lineage.shape.Within alter
    [("nodes", InItem (Node.within alter)), ("edges", InItem (Edge.within alter))]

theorem Lineage.turns_within (h : alter.Turns source failure) :
    Lineage.shape.codec.Turns source (within alter) failure := by
  refine lawful_shape.turns_within (h orderly_shape) ?_
  simp only [List.forall_mem_cons]
  exact ⟨⟨_, rfl, (Node.turns_within h).list⟩, ⟨_, rfl, (Edge.turns_within h).list⟩, by simp⟩

/-! ### The snapshot -/

theorem Progress.orderly_shape : Progress.shape.Orderly where
  toLawful := lawful_shape
  set_get := by simp [shape, needs]
  set_comm := by simp [shape]

/-- The progress is altered. -/
def Progress.within (alter : RecordAlteration) : Alteration := Progress.shape.Within alter []

theorem Progress.turns_within (h : alter.Turns source failure) :
    Progress.shape.codec.Turns source (within alter) failure :=
  lawful_shape.turns_within (h orderly_shape) (by simp)

namespace Snapshot

theorem orderly_shape : Snapshot.shape.Orderly where
  toLawful := lawful_shape
  set_get := by simp [shape, needs, allows]
  set_comm := by simp [shape, needs, allows]

/-- A snapshot is altered, or a record in it. -/
def within (alter : RecordAlteration) : Alteration :=
  Snapshot.shape.Within alter [
    ("progress", Progress.within alter),
    ("cdes", InItem (Element.within alter)),
    ("issues", InItem (Issue.within alter)),
    ("reconciliation", InItem (Match.within alter)),
    ("lineage", Lineage.within alter)]

theorem turns_within (h : alter.Turns source failure) :
    Snapshot.shape.codec.Turns source (within alter) failure := by
  refine lawful_shape.turns_within (h orderly_shape) ?_
  simp only [List.forall_mem_cons]
  exact ⟨⟨_, rfl, Progress.turns_within h⟩, ⟨_, rfl, (Element.turns_within h).list⟩,
    ⟨_, rfl, (Issue.turns_within h).list⟩, ⟨_, rfl, (Match.turns_within h).list⟩,
    ⟨_, rfl, Lineage.turns_within h⟩, by simp⟩

/-- A record of a snapshot says the same in other words. -/
def Restated : Alteration :=
  within fun _ shape => shape.Restates .text Document.WellFormed

/-- A record of a snapshot lacks the member with the key, which has to be there. -/
def Incomplete (name : String) : Alteration := within fun _ shape => shape.Omits name

/-- **Documents that say the same are read as the same snapshot.** Suppose a text is read as a
snapshot. Then so is every text whose document comes from the one of the first by reordering the
members of record objects, adding well-formed members whose keys are no fields, and writing out or
leaving out fields that hold their defaults, at any records and any number of times. A text whose
document lacks one of the members that have to be there is refused, because of that member. -/
theorem ofText_altered {text text' : String} {s : Snapshot} {d : Document}
    (h : ofText text = .ok s) (hd : Reading.ofText text' = ⟨d, []⟩) :
    (Relation.ReflTransGen Restated (Reading.ofText text).document d → ofText text' = .ok s) ∧
    (∀ name, Incomplete name (Reading.ofText text).document d →
      ofText text' = .error (.data (.missingField name))) ∧
    shape.required = ["cycle_id"] ∧
    Progress.shape.required = ["step"] ∧
    Element.shape.required = ["id", "name", "status", "overall_score", "created_at"] ∧
    Owner.shape.required = ["name"] ∧
    LineageInfo.shape.required = ["has_complete_lineage"] ∧
    Issue.shape.required = ["id", "title", "severity", "status", "created_at"] ∧
    Resolution.shape.required = [] ∧
    Evidence.shape.required = ["name"] ∧
    Match.shape.required = ["current_id", "match_type"] ∧
    Lineage.shape.required = [] ∧
    Node.shape.required = ["id", "label", "node_type"] ∧
    Edge.shape.required = ["source", "target"] := by
  have hread := (ofText_eq_ok_iff.1 h).1
  refine ⟨fun hrestated => ?_, fun name hincomplete => ?_, rfl, rfl, rfl, rfl, rfl, rfl, rfl, rfl,
    rfl, rfl, rfl, rfl⟩
  · have hturns : shape.codec.Turns .text Restated none :=
      turns_within fun hshape => hshape.turns_restates fun _ => Document.skip_eq_ok_iff.2
    refine ofText_eq_ok_iff.2 ⟨?_, by rw [hd]⟩
    rw [hd]
    exact hturns.decode_eq_ok hrestated hread
  · have hturns : shape.codec.Turns .text (Incomplete name) (some (.data (.missingField name))) :=
      turns_within fun hshape => hshape.turns_omits
    refine ofText_eq_error ?_
    rw [hd]
    exact hturns.decode_eq hincomplete hread

/-- An alteration of the only node of a snapshot. -/
theorem within_node {d d' : Document} (h : alter Node Node.shape d d') :
    within alter
      (.object [(.str "cycle_id", .str "c"),
        (.str "lineage", .object [(.str "nodes", .list [d])])])
      (.object [(.str "cycle_id", .str "c"),
        (.str "lineage", .object [(.str "nodes", .list [d'])])]) :=
  .member [_] [] (List.mem_of_getElem? (i := 4) rfl)
    (.member [] [] (List.mem_of_getElem? (i := 0) rfl) (.intro [] [] (.here h)))

/-- A snapshot document with a node that has no reason for a deferral. -/
def oneNode : Value :=
  .object [("cycle_id", .str "c"), ("lineage", .object [("nodes", .list [
    .object [("id", .str "n"), ("deferral_reason", .null), ("label", .str "l"),
      ("node_type", .str "report_field")]])])]

/-- It says the same with the reason left out, a note and another order. -/
def oneNodeRestated : Value :=
  .object [("lineage", .object [("nodes", .list [
    .object [("id", .str "n"), ("label", .str "l"), ("node_type", .str "report_field")]])]),
    ("note", .list [.int 1, .null]), ("cycle_id", .str "c")]

/-- It lacks the label of the node. -/
def oneNodeIncomplete : Value :=
  .object [("cycle_id", .str "c"), ("lineage", .object [("nodes", .list [
    .object [("id", .str "n"), ("deferral_reason", .null), ("node_type", .str "report_field")]])])]

theorem restated_oneNode :
    Relation.ReflTransGen Restated (.ofValue oneNode) (.ofValue oneNodeRestated) := by
  have hdropped : Restated (.ofValue oneNode) _ :=
    within_node (.defaultDropped [_] [_, _] (f := Node.shape.fields.get ⟨6, by decide⟩)
      (List.get_mem _ _) rfl rfl)
  have hname : "note" ∉ Snapshot.shape.fields.map Field.name := by decide
  have hnote : (Document.list [.num (.int 1), .null]).WellFormed := by
    simp [Document.WellFormed, Document.ItemsWellFormed]
  exact ((Relation.ReflTransGen.single hdropped).tail (.here (.unknownAdded [] _ hname hnote))).tail
    (.here (.reordered (@List.perm_append_comm _ [_, _] [_])))

theorem ofText_altered_oneNode :
    ofText oneNode.compact = .ok { cycleId := "c", lineage := {
        nodes := [{ id := "n", label := "l", nodeType := .reportField }] } } ∧
      ofText oneNodeRestated.compact = ofText oneNode.compact ∧
      ofText oneNodeIncomplete.compact = .error (.data (.missingField "label")) := by
  have hone : Reading.ofText oneNode.compact = ⟨.ofValue oneNode, []⟩ :=
    Reading.ofText_compact (by
      simp [oneNode, Value.InRange, Value.ItemsInRange, Value.MembersInRange])
  have hrestated : Reading.ofText oneNodeRestated.compact = ⟨.ofValue oneNodeRestated, []⟩ :=
    Reading.ofText_compact (by
      simp [oneNodeRestated, Value.InRange, Value.ItemsInRange, Value.MembersInRange])
  have hincomplete : Reading.ofText oneNodeIncomplete.compact = ⟨.ofValue oneNodeIncomplete, []⟩ :=
    Reading.ofText_compact (by
      simp [oneNodeIncomplete, Value.InRange, Value.ItemsInRange, Value.MembersInRange])
  have hread : ofText oneNode.compact = .ok _ :=
    ofText_eq_ok_iff.2 (by rw [hone]; exact ⟨rfl, rfl⟩)
  have hsame := (ofText_altered hread hrestated).1
  have hmissing := (ofText_altered hread hincomplete).2.1 "label"
  rw [hone] at hsame hmissing
  refine ⟨hread, (hsame restated_oneNode).trans hread.symm, hmissing ?_⟩
  exact within_node (.intro [_, _] [_] (by decide))

end Snapshot

end DataGovernance
