import DataGovernance.Proofs.Table.Narrowing
import Mathlib.Data.List.DropRight
import Mathlib.Data.String.Basic

/-!
# Lines are aligned

All lines of a table have the same columns. A column is never narrower than its header, so headers
stand in full; a cell stands in full or, where it is longer than its column is wide, ends in an
ellipsis, and is filled up with blanks to the width of the column. The header line and the divider
are as wide as the columns side by side, and a row is at most that wide, since it is cut behind its
last character that is not blank.

Key definitions: `Shows`, `Fills`, `rowFields`, `IsRow`, `Lacks`.
Key theorems: `fills_pad`, `max_le_width_of_mem_fit`, `length_headerLine`, `length_rowLine_le`,
`isRow_rowLine`, `not_mem_line`, `render_aligned`.
-/

namespace DataGovernance.Table

/-! ### Fields -/

variable {width : Nat} {cs shown : List Char}

/-- A text is made of digits, hyphens and points, with at least one digit. -/
def IsNumeric (cs : List Char) : Prop :=
  (∀ c ∈ cs, c.isDigit = true ∨ c = '-' ∨ c = '.') ∧ ∃ c ∈ cs, c.isDigit = true

/-- What is shown of a cell in a column of a width. -/
structure Shows (width : Nat) (cell shown : List Char) : Prop where
  whole : cell.length ≤ width → shown = cell
  cut : width < cell.length → shown = cell.take (width - 1) ++ ['…']

/-- A text filled up with blanks to a width, on the left if it is a number. -/
structure Fills (width : Nat) (shown field : List Char) : Prop where
  length_eq : field.length = width
  number : IsNumeric shown → field = List.replicate (width - shown.length) ' ' ++ shown
  other : ¬IsNumeric shown → field = shown ++ List.replicate (width - shown.length) ' '

theorem isNumeric_iff : isNumeric cs = true ↔ IsNumeric cs := by
  simp only [isNumeric, IsNumeric, Bool.and_eq_true, List.all_eq_true, List.any_eq_true,
    Bool.or_eq_true, beq_iff_eq, or_assoc]

theorem shows_truncate (width : Nat) (cs : List Char) : Shows width cs (truncate width cs) where
  whole h := if_pos h
  cut h := if_neg (Nat.not_le.2 h)

theorem length_truncate_le (hwidth : 0 < width) : (truncate width cs).length ≤ width := by
  unfold truncate
  split
  · assumption
  · rw [List.length_append, List.length_take, List.length_singleton]
    omega

theorem length_filling : (filling width cs).length = width - cs.length := List.length_replicate

theorem fills_pad (h : shown.length ≤ width) : Fills width shown (pad width shown) where
  length_eq := by
    unfold pad
    split <;> rw [List.length_append, length_filling] <;> omega
  number hnumeric := if_pos (isNumeric_iff.2 hnumeric)
  other hnumeric := if_neg (mt isNumeric_iff.1 hnumeric)

theorem field_false (width : Nat) (cell : String) :
    field false width cell = pad width (truncate width cell.toList) := rfl

theorem length_field (hwidth : 0 < width) (cell : String) :
    (field false width cell).length = width := by
  rw [field_false]
  exact (fills_pad (length_truncate_le hwidth)).length_eq

theorem mem_filling {c : Char} (h : c ∈ filling width cs) : c = ' ' := List.eq_of_mem_replicate h

theorem mem_truncate {c : Char} (h : c ∈ truncate width cs) : c ∈ cs ∨ c = '…' := by
  unfold truncate at h
  split at h
  · exact .inl h
  · rw [List.mem_append, List.mem_singleton] at h
    exact h.imp_left List.mem_of_mem_take

theorem mem_pad {c : Char} (h : c ∈ pad width cs) : c ∈ cs ∨ c = ' ' := by
  unfold pad at h
  split at h <;> rw [List.mem_append] at h
  · exact h.symm.imp_right mem_filling
  · exact h.imp_right mem_filling

/-- A field adds blanks and an ellipsis to the characters of its cell. -/
theorem mem_field {c : Char} {cell : String} (h : c ∈ field false width cell) :
    c ∈ cell.toList ∨ c = '…' ∨ c = ' ' := by
  rw [field_false] at h
  rcases mem_pad h with h | h
  · exact (mem_truncate h).imp_right .inl
  · exact .inr (.inr h)

/-! ### Fields side by side -/

theorem length_besides : ∀ fields : List (List Char),
    (besides fields).length =
      total (fields.map List.length) + gap.length * (fields.length - 1)
  | [] => rfl
  | [f] => by simp [besides]
  | f :: g :: fields => by
    have ih := length_besides (g :: fields)
    have htotal : total ((f :: g :: fields).map List.length) =
        f.length + total ((g :: fields).map List.length) := rfl
    have hgaps : (f :: g :: fields).length - 1 = (g :: fields).length - 1 + 1 := rfl
    unfold besides at ih ⊢
    rw [List.intercalate_cons_cons, List.length_append, List.length_append, ih, htotal, hgaps,
      Nat.mul_succ]
    omega

theorem mem_besides {c : Char} : ∀ {fields : List (List Char)}, c ∈ besides fields →
    c = ' ' ∨ ∃ field ∈ fields, c ∈ field
  | [], h => absurd h List.not_mem_nil
  | [f], h => .inr ⟨f, .head _, by simpa [besides] using h⟩
  | f :: g :: fields, h => by
    unfold besides at h
    rw [List.intercalate_cons_cons, List.mem_append, List.mem_append] at h
    rcases h with (h | h) | h
    · exact .inr ⟨f, .head _, h⟩
    · exact .inl (by simpa [gap] using h)
    · obtain hblank | ⟨field, hfield, hc⟩ := mem_besides h
      · exact .inl hblank
      · exact .inr ⟨field, .tail _ hfield, hc⟩

/-! ### Columns that are wide enough -/

variable {limit : Option Nat} {t : Table} {c : Column} {cols : List Column}

theorem length_le_utf8ByteSize (s : String) : s.length ≤ s.utf8ByteSize := by
  rw [← String.length_toList, ← String.utf8Len_toList]
  induction s.toList with
  | nil => exact Nat.le_refl 0
  | cons c cs ih =>
    have hpos := c.utf8Size_pos
    rw [List.length_cons, String.utf8Len_cons]
    omega

theorem Column.max_le_least_ofCells (header : String) (cells : List String) :
    max header.length leastWidth ≤ (Column.ofCells header cells).least := by
  have hsize := length_le_utf8ByteSize header
  simp only [least, ofCells, List.foldr_cons]
  omega

theorem map_header_fit (limit : Option Nat) (t : Table) :
    (fit limit t.columns).map Column.header = t.headers.map String.toList := by
  have hcolumns : t.columns.map Column.header = t.headers.map String.toList :=
    List.ext_getElem (by simp [columns]) fun j _ _ => by simp [columns, Column.ofCells]
  rw [← hcolumns]
  cases limit with
  | none => rfl
  | some limit => exact map_header_eq (narrowed_shrink limit t.columns)

theorem length_fit : (fit limit t.columns).length = t.headers.length := by
  have hlength := congrArg List.length (map_header_fit limit t)
  simpa using hlength

/-- A column never becomes narrower than its header, or than six characters. -/
theorem max_le_width_of_mem_fit (hc : c ∈ fit limit t.columns) :
    max c.header.length leastWidth ≤ c.width := by
  have hleast : ∀ d ∈ t.columns, max d.header.length leastWidth ≤ d.least := by
    intro d hd
    obtain ⟨j, hj, rfl⟩ := List.mem_mapIdx.1 hd
    exact Column.max_le_least_ofCells _ _
  cases limit with
  | none => exact Nat.le_trans (hleast c hc) (Nat.min_le_left _ _)
  | some limit =>
    obtain ⟨d, hd, hdc⟩ := exists_of_mem_shrink hc
    rw [hdc.header_eq]
    exact Nat.le_trans (hleast d hd) hdc.least_le

theorem length_header_le_of_mem_fit (hc : c ∈ fit limit t.columns) : c.header.length ≤ c.width :=
  Nat.le_trans (Nat.le_max_left _ _) (max_le_width_of_mem_fit hc)

theorem width_pos_of_mem_fit (hc : c ∈ fit limit t.columns) : 0 < c.width :=
  Nat.lt_of_lt_of_le (by decide) (Nat.le_trans (Nat.le_max_right _ _) (max_le_width_of_mem_fit hc))

theorem length_le_foldr_max {s : String} : ∀ {texts : List String}, s ∈ texts →
    s.length ≤ texts.foldr (fun s w => max s.length w) 0
  | _ :: _, .head _ => Nat.le_max_left _ _
  | _ :: _, .tail _ h => Nat.le_trans (length_le_foldr_max h) (Nat.le_max_right _ _)

/-- A column is as wide as its cells ask for, as long as it has not been narrowed. -/
theorem length_le_width_columns {row : List String} {cell : String} {j : Nat}
    (hrow : row ∈ t.rows) (hc : t.columns[j]? = some c) (hcell : row[j]? = some cell) :
    cell.length ≤ c.width := by
  rw [columns, List.getElem?_mapIdx, Option.map_eq_some_iff] at hc
  obtain ⟨header, _, rfl⟩ := hc
  have hmem : cell ∈ t.rows.filterMap fun row => row[j]? :=
    List.mem_filterMap.2 ⟨row, hrow, hcell⟩
  exact Nat.le_trans (length_le_foldr_max (.tail header hmem)) (Nat.le_max_left _ _)

/-! ### Lines -/

theorem headerLine_eq (h : ∀ c ∈ cols, c.header.length ≤ c.width) :
    headerLine cols = besides (cols.map fun c => c.header ++ filling c.width c.header) := by
  refine congrArg besides (List.map_congr_left fun c hc => ?_)
  rw [(shows_truncate c.width c.header).whole (h c hc)]

theorem length_headerLine (h : ∀ c ∈ cols, c.header.length ≤ c.width) :
    (headerLine cols).length = Table.width cols := by
  have hlengths : (cols.map fun c => c.header ++ filling c.width c.header).map List.length =
      cols.map Column.width := by
    rw [List.map_map]
    refine List.map_congr_left fun c hc => ?_
    have hle := h c hc
    rw [Function.comp_apply, List.length_append, length_filling]
    omega
  rw [headerLine_eq h, length_besides, hlengths, List.length_map]
  rfl

theorem length_headerLine_fit (limit : Option Nat) (t : Table) :
    (headerLine (fit limit t.columns)).length = Table.width (fit limit t.columns) :=
  length_headerLine fun _ hc => length_header_le_of_mem_fit hc

/-- No header is cut. -/
theorem headerLine_fit_eq (limit : Option Nat) (t : Table) :
    headerLine (fit limit t.columns) =
      gap.intercalate (List.zipWith
        (fun h width => h.toList ++ List.replicate (width - h.length) ' ')
        t.headers ((fit limit t.columns).map Column.width)) := by
  have hfields : List.zipWith (fun h width => h ++ List.replicate (width - h.length) ' ')
      (t.headers.map String.toList) ((fit limit t.columns).map Column.width) =
        (fit limit t.columns).map fun c => c.header ++ filling c.width c.header := by
    rw [← map_header_fit limit t, List.zipWith_map, List.zipWith_self]
    rfl
  rw [headerLine_eq fun c hc => length_header_le_of_mem_fit hc, ← hfields, List.zipWith_map_left]
  simp only [String.length_toList]
  rfl

/-- The fields of a row. -/
def rowFields (coloured : Bool) (cols : List Column) (row : List String) : List (List Char) :=
  cols.mapIdx fun j c => field coloured c.width (row[j]?.getD noCell)

theorem rowLine_eq (coloured : Bool) (cols : List Column) (row : List String) :
    rowLine coloured cols row = Text.trimEnd (besides (rowFields coloured cols row)) := rfl

theorem length_rowFields (coloured : Bool) (cols : List Column) (row : List String) :
    (rowFields coloured cols row).length = cols.length := List.length_mapIdx

theorem map_length_rowFields (h : ∀ c ∈ cols, 0 < c.width) (row : List String) :
    (rowFields false cols row).map List.length = cols.map Column.width := by
  refine List.ext_getElem (by simp [length_rowFields]) fun j hj _ => ?_
  rw [List.length_map, length_rowFields] at hj
  simp only [rowFields, List.getElem_map, List.getElem_mapIdx]
  exact length_field (h _ (List.getElem_mem hj)) _

theorem length_rowLine_le (h : ∀ c ∈ cols, 0 < c.width) (row : List String) :
    (rowLine false cols row).length ≤ Table.width cols := by
  have hfields : (besides (rowFields false cols row)).length = Table.width cols := by
    rw [length_besides, map_length_rowFields h, length_rowFields]
    rfl
  rw [rowLine_eq, ← hfields]
  exact (List.rdropWhile_prefix _ _).length_le

/-- A line is that of a row in columns of the given widths: it has a field for each column, so that
cells beyond the last column are dropped, and no blanks at its end. -/
def IsRow (widths : List Nat) (row : List String) (line : List Char) : Prop :=
  ∃ fields, fields.length = widths.length ∧ line = Text.trimEnd (gap.intercalate fields) ∧
    ∀ (j width : Nat) (field : List Char), widths[j]? = some width → fields[j]? = some field →
      ∃ shown, Shows width (row[j]?.getD "-").toList shown ∧ Fills width shown field

theorem isRow_rowLine (h : ∀ c ∈ cols, 0 < c.width) (row : List String) :
    IsRow (cols.map Column.width) row (rowLine false cols row) := by
  refine ⟨rowFields false cols row, by simp [length_rowFields], rowLine_eq false cols row,
    fun j width field hwidth hfield => ?_⟩
  rw [List.getElem?_map, Option.map_eq_some_iff] at hwidth
  obtain ⟨c, hc, rfl⟩ := hwidth
  rw [rowFields, List.getElem?_mapIdx, hc, Option.map_some, Option.some_inj] at hfield
  subst hfield
  have hpos := h c (List.mem_of_getElem? hc)
  rw [field_false]
  exact ⟨_, shows_truncate _ _, fills_pad (length_truncate_le hpos)⟩

/-! ### Characters that occur in no line -/

/-- A character occurs neither in a header nor in a cell. -/
def Lacks (c : Char) (t : Table) : Prop :=
  (∀ header ∈ t.headers, c ∉ header.toList) ∧ ∀ row ∈ t.rows, ∀ cell ∈ row, c ∉ cell.toList

section

variable {a : Char} (hlayout : a ∉ [' ', '-', '…'])
include hlayout

theorem not_mem_headerLine (ha : Lacks a t) : a ∉ headerLine (fit limit t.columns) := by
  intro hmem
  rw [headerLine_eq fun c hc => length_header_le_of_mem_fit hc] at hmem
  rcases mem_besides hmem with rfl | ⟨field, hfield, hmem⟩
  · exact hlayout (by decide)
  · obtain ⟨c, hc, rfl⟩ := List.mem_map.1 hfield
    have hheader : c.header ∈ t.headers.map String.toList :=
      map_header_fit limit t ▸ List.mem_map_of_mem hc
    obtain ⟨header, hheader, he⟩ := List.mem_map.1 hheader
    rcases List.mem_append.1 hmem with hmem | hmem
    · exact ha.1 header hheader (he ▸ hmem)
    · exact hlayout (by simp [mem_filling hmem])

theorem not_mem_rowFields {row : List String} (ha : ∀ cell ∈ row, a ∉ cell.toList) :
    a ∉ besides (rowFields false cols row) := by
  intro hmem
  rcases mem_besides hmem with rfl | ⟨field, hfield, hmem⟩
  · exact hlayout (by decide)
  · obtain ⟨j, hj, rfl⟩ := List.mem_mapIdx.1 hfield
    rcases mem_field hmem with hmem | rfl | rfl
    · cases hcell : row[j]? with
      | none => exact hlayout (by simp_all [noCell])
      | some cell =>
        rw [hcell] at hmem
        exact ha cell (List.mem_of_getElem? hcell) hmem
    · exact hlayout (by decide)
    · exact hlayout (by decide)

theorem not_mem_rowLine {row : List String} (ha : ∀ cell ∈ row, a ∉ cell.toList) :
    a ∉ rowLine false cols row := by
  rw [rowLine_eq]
  exact fun hmem => not_mem_rowFields hlayout ha ((List.rdropWhile_prefix _ _).subset hmem)

/-- What no header and no cell contains is in no line, unless the layout puts it there. -/
theorem not_mem_line (ha : Lacks a t) : ∀ line ∈ t.lines limit false, a ∉ line := by
  intro line hline
  simp only [lines, List.mem_cons, List.mem_map] at hline
  rcases hline with rfl | rfl | ⟨row, hrow, rfl⟩
  · exact not_mem_headerLine hlayout ha
  · exact fun hmem => hlayout (by simp [List.eq_of_mem_replicate hmem])
  · exact not_mem_rowLine hlayout (ha.2 row hrow)

end

/-! ### The whole table -/

/-- **The lines of a table are aligned.** The table has as many columns as headers. The header line
and the divider are exactly as wide as the columns side by side, and all headers stand in full. Each
row is a line of fields, each exactly as wide as its column; a missing cell is a hyphen, a cell that
is too long ends in an ellipsis, and numbers stand on the right. Without a limit every cell stands
in full. -/
theorem render_aligned (t : Table) (limit : Option Nat) :
    let widths := (fit limit t.columns).map Column.width
    let full := total widths + 2 * (widths.length - 1)
    widths.length = t.headers.length ∧
    ∃ header rows,
      t.render limit false =
        String.ofList (['\n'].intercalate (header :: List.replicate full '-' :: rows)) ∧
      header.length = full ∧
      header = gap.intercalate (List.zipWith
        (fun h width => h.toList ++ List.replicate (width - h.length) ' ') t.headers widths) ∧
      List.Forall₂ (IsRow widths) t.rows rows ∧
      (limit = none → ∀ row ∈ t.rows, ∀ (j width : Nat) (cell : String),
        widths[j]? = some width → row[j]? = some cell → cell.length ≤ width) := by
  intro widths full
  have hpos : ∀ c ∈ fit limit t.columns, 0 < c.width := fun c hc => width_pos_of_mem_fit hc
  have hfull : (headerLine (fit limit t.columns)).length = full := by
    simp only [length_headerLine_fit, Table.width, full, widths, List.length_map]
    rfl
  refine ⟨by simp only [widths, List.length_map, length_fit], headerLine (fit limit t.columns),
    t.rows.map (rowLine false (fit limit t.columns)), ?_, hfull, headerLine_fit_eq limit t, ?_, ?_⟩
  · rw [← hfull]
    rfl
  · exact List.forall₂_map_right_iff.2 (List.forall₂_same.2 fun row _ => isRow_rowLine hpos row)
  · rintro rfl row hrow j width cell hwidth hcell
    rw [List.getElem?_map, Option.map_eq_some_iff] at hwidth
    obtain ⟨c, hc, rfl⟩ := hwidth
    exact length_le_width_columns hrow hc hcell

end DataGovernance.Table
