import DataGovernance.Proofs.Table.Layout

/-!
# When a table fits a limit

The header line is as wide as the columns, and no line is wider. So the lines of a table have at
most as many characters as a limit allows exactly when the columns fit it after giving way as far as
they may. As columns give way down to the sizes of their headers in bytes, it is enough that these
fit. It is not enough that the headers themselves fit: a header with a character of more than one
byte holds its column open for a character that it does not have.

Key definition: `textLines`.
Key theorems: `textLines_render`, `forall_length_line_le_iff`, `lines_fit_iff`, `not_lines_fit`.
-/

namespace DataGovernance.Table

/-- The lines of a text. -/
def textLines (s : String) : List (List Char) := s.toList.splitOn '\n'

variable {limit : Option Nat} {coloured : Bool} {t : Table} {n : Nat}

theorem lines_ne_nil : t.lines limit coloured ≠ [] := List.cons_ne_nil _ _

/-- The lines of a table can be read back from its text. -/
theorem textLines_render (h : Lacks '\n' t) :
    textLines (t.render limit false) = t.lines limit false := by
  rw [textLines, render, String.toList_ofList]
  exact List.splitOn_intercalate '\n' (not_mem_line (by decide) h) lines_ne_nil

theorem length_line_le :
    ∀ line ∈ t.lines limit false, line.length ≤ width (fit limit t.columns) := by
  intro line hline
  simp only [lines, List.mem_cons, List.mem_map] at hline
  rcases hline with rfl | rfl | ⟨row, -, rfl⟩
  · exact Nat.le_of_eq (length_headerLine_fit limit t)
  · rw [List.length_replicate]
    exact Nat.le_of_eq (length_headerLine_fit limit t)
  · exact length_rowLine_le (fun _ hc => width_pos_of_mem_fit hc) row

/-- The lines have room exactly if the columns side by side have. -/
theorem forall_length_line_le_iff :
    (∀ line ∈ t.lines limit false, line.length ≤ n) ↔ width (fit limit t.columns) ≤ n := by
  constructor
  · intro h
    have hheader : headerLine (fit limit t.columns) ∈ t.lines limit false := .head _
    exact length_headerLine_fit limit t ▸ h _ hheader
  · exact fun h line hline => Nat.le_trans (length_line_le line hline) h

theorem narrowest_columns_le (t : Table) :
    narrowest t.columns ≤
      total (t.headers.map fun h => max h.utf8ByteSize leastWidth) +
        2 * (t.headers.length - 1) := by
  have hfloors : total (t.columns.map Column.least) ≤ total (t.columns.map Column.floor) := by
    induction t.columns with
    | nil => exact Nat.le_refl 0
    | cons c cs ih =>
      rw [List.map_cons, List.map_cons, total_cons, total_cons]
      exact Nat.add_le_add (Nat.min_le_right _ _) ih
  have hcount : t.columns.length = t.headers.length := List.length_mapIdx
  rw [narrowest, hcount, ← map_floor_columns]
  exact Nat.add_le_add_right hfloors _

/-- **When a table fits a limit.** No line of the table is longer than the limit exactly if the
columns are no wider when all of them have given way as far as they may. So it is if the sizes of
the headers in bytes, six at least, fit with the blanks between them. -/
theorem lines_fit_iff (t : Table) (limit : Nat) (h : Lacks '\n' t) :
    ((∀ line ∈ textLines (t.render (some limit) false), line.length ≤ limit) ↔
      total (t.columns.map fun c => min c.width c.floor) + 2 * (t.headers.length - 1) ≤ limit) ∧
    (total (t.headers.map fun h => max h.utf8ByteSize 6) + 2 * (t.headers.length - 1) ≤ limit →
      ∀ line ∈ textLines (t.render (some limit) false), line.length ≤ limit) := by
  have hcount : t.columns.length = t.headers.length := List.length_mapIdx
  have hiff : (∀ line ∈ textLines (t.render (some limit) false), line.length ≤ limit) ↔
      narrowest t.columns ≤ limit := by
    rw [textLines_render h, forall_length_line_le_iff]
    exact width_shrink_le_iff
  refine ⟨?_, fun hbytes => hiff.2 (Nat.le_trans (narrowest_columns_le t) hbytes)⟩
  rw [hiff, narrowest, hcount]
  rfl

/-- A column whose header has eight characters and nine bytes. -/
def accented : Table := ⟨["identité"], [["cde-000001"]]⟩

/-- It does not suffice that columns as wide as their headers fit. -/
theorem not_lines_fit :
    ¬∀ (t : Table) (limit : Nat), t.headers ≠ [] → Lacks '\n' t →
      total (t.headers.map fun h => max h.length 6) + 2 * (t.headers.length - 1) ≤ limit →
        ∀ line ∈ textLines (t.render (some limit) false), line.length ≤ limit := by
  intro h
  have hlacks : Lacks '\n' accented := by unfold Lacks; decide
  have hfits := h accented 8 (by decide) hlacks (by decide)
  rw [textLines_render hlacks, forall_length_line_le_iff] at hfits
  have hnarrowest : narrowest accented.columns ≤ 8 := width_shrink_le_iff.1 hfits
  exact absurd hnarrowest (by decide)

/-- A label that has to be shortened. -/
def labelled : Table :=
  ⟨["id", "label"], [["rpt_c07_ead", "C 07.00 r010 c200 exposure at default"]]⟩

theorem lines_fit_iff_labelled :
    Lacks '\n' labelled ∧
      (∀ line ∈ textLines (labelled.render (some 40) false), line.length ≤ 40) := by
  have hlacks : Lacks '\n' labelled := by unfold Lacks; decide
  exact ⟨hlacks, (lines_fit_iff labelled 40 hlacks).2 (by decide)⟩

end DataGovernance.Table
