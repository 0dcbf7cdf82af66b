import DataGovernance.Proofs.Record.Lawful
import DataGovernance.Snapshot.Format

/-!
# Snapshots are read back from their text

The shape of a snapshot and of every record in it is lawful. So each snapshot is read back from its
text: any text in it, any version and score, every timestamp, and options whether present or not.

Key theorems: the `lawful_shape` of each record, `Snapshot.ofText_toText`,
`Snapshot.ofText_toText_newline`.
-/

namespace DataGovernance

open Json Record Record.Codec

/-! ### Elements -/

theorem Owner.lawful_shape : Owner.shape.Lawful where
  nodup_names := by decide
  lawful_fields := by
    simp only [shape, List.forall_mem_cons]
    exact ⟨lawful_text, lawful_text.option neverNull_text, by simp⟩
  fill_blank r := by cases r; rfl

theorem LineageInfo.lawful_shape : LineageInfo.shape.Lawful where
  nodup_names := by decide
  lawful_fields := by
    simp only [shape, List.forall_mem_cons]
    exact ⟨lawful_flag, lawful_text.list, by simp⟩
  fill_blank r := by cases r; rfl

theorem Element.lawful_shape : Element.shape.Lawful where
  nodup_names := by decide
  lawful_fields := by
    simp only [shape, List.forall_mem_cons]
    exact ⟨lawful_text, lawful_text, lawful_word ElementStatus,
      Owner.lawful_shape.codec.option (Shape.neverNull_codec _),
      lawful_natural "u8" (by decide), (lawful_word Criticality).option (neverNull_word _),
      LineageInfo.lawful_shape.codec.option (Shape.neverNull_codec _), lawful_timestamp, by simp⟩
  fill_blank r := by cases r; rfl

/-! ### Issues -/

theorem Evidence.lawful_shape : Evidence.shape.Lawful where
  nodup_names := by decide
  lawful_fields := by
    simp only [shape, List.forall_mem_cons]
    exact ⟨lawful_text, lawful_text.option neverNull_text, by simp⟩
  fill_blank r := by cases r; rfl

theorem Resolution.lawful_shape : Resolution.shape.Lawful where
  nodup_names := by decide
  lawful_fields := by
    simp only [shape, List.forall_mem_cons]
    exact ⟨(lawful_word ResolutionType).option (neverNull_word _), lawful_text,
      Evidence.lawful_shape.codec.list, by simp⟩
  fill_blank r := by cases r; rfl

theorem Issue.lawful_shape : Issue.shape.Lawful where
  nodup_names := by decide
  lawful_fields := by
    have hpriority := (lawful_word Priority).option (neverNull_word _)
    have htext := lawful_text.option neverNull_text
    simp only [shape, List.forall_mem_cons]
    exact ⟨lawful_text, lawful_text, lawful_word Severity, lawful_word IssueStatus, hpriority,
      hpriority, htext, htext, Resolution.lawful_shape.codec.option (Shape.neverNull_codec _),
      lawful_timestamp, lawful_timestamp.option neverNull_timestamp, by simp⟩
  fill_blank r := by cases r; rfl

/-! ### Reconciliation -/

theorem Match.lawful_shape : Match.shape.Lawful where
  nodup_names := by decide
  lawful_fields := by
    have haction := (lawful_word MatchAction).option (neverNull_word _)
    simp only [shape, List.forall_mem_cons]
    exact ⟨lawful_text, lawful_text.option neverNull_text, lawful_word MatchType, haction,
      haction, by simp⟩
  fill_blank r := by cases r; rfl

/-! ### Lineage -/

theorem Node.lawful_shape : Node.shape.Lawful where
  nodup_names := by decide
  lawful_fields := by
    simp only [shape, List.forall_mem_cons]
    exact ⟨lawful_text, lawful_text, lawful_word NodeType, lawful_text.list, lawful_text.list,
      lawful_flag, lawful_text.option neverNull_text, by simp⟩
  fill_blank r := by cases r; rfl

theorem Edge.lawful_shape : Edge.shape.Lawful where
  nodup_names := by decide
  lawful_fields := by
    simp only [shape, List.forall_mem_cons]
    exact ⟨lawful_text, lawful_text, by simp⟩
  fill_blank r := by cases r; rfl

theorem Lineage.lawful_shape : Lineage.shape.Lawful where
  nodup_names := by decide
  lawful_fields := by
    simp only [shape, List.forall_mem_cons]
    exact ⟨Node.lawful_shape.codec.list, Edge.lawful_shape.codec.list, by simp⟩
  fill_blank r := by cases r; rfl

/-! ### The snapshot -/

theorem Progress.lawful_shape : Progress.shape.Lawful where
  nodup_names := by decide
  lawful_fields := by
    simp only [shape, List.forall_mem_cons]
    exact ⟨lawful_word Step, by simp⟩
  fill_blank r := by cases r; rfl

namespace Snapshot

theorem lawful_shape : Snapshot.shape.Lawful where
  nodup_names := by decide
  lawful_fields := by
    simp only [shape, List.forall_mem_cons]
    exact ⟨lawful_text, lawful_natural "u64" (Nat.le_refl _), Progress.lawful_shape.codec,
      Element.lawful_shape.codec.list, Issue.lawful_shape.codec.list,
      Match.lawful_shape.codec.list, Lineage.lawful_shape.codec, by simp⟩
  fill_blank r := by cases r; rfl

/-- A snapshot file is its snapshot's text with blanks behind it. -/
theorem ofText_toText_blanks (s : Snapshot) {blanks : List Char}
    (hb : ∀ c ∈ blanks, Token.isSpace c = true) :
    ofText (s.toText ++ String.ofList blanks) = .ok s := by
  have hread := lawful_shape.codec.ofText_write Style.blank_indented s hb
  rwa [String.ofList_append] at hread

/-- **A snapshot is read back from its text**, whatever it holds. -/
theorem ofText_toText (s : Snapshot) : ofText s.toText = .ok s := by
  have hread := s.ofText_toText_blanks (List.forall_mem_nil fun c => Token.isSpace c = true)
  rwa [String.ofList_nil, String.append_empty] at hread

/-- A snapshot is read back from the text that is saved, which ends with a line break. -/
theorem ofText_toText_newline (s : Snapshot) : ofText (s.toText ++ "\n") = .ok s :=
  s.ofText_toText_blanks (by simp [Token.isSpace])

end Snapshot

end DataGovernance
