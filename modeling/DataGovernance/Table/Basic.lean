import DataGovernance.Count
import DataGovernance.Text.Blank

/-!
# Tables of text

A table is laid out in columns two blanks apart, each wide enough for its header and cells and never
narrower than six characters. When a greatest width is given, the widest column that may still give
way loses a character until the table fits or no column may give way. A column gives way down to the
size of its header in bytes. A text that is too long for its column ends in an ellipsis; numbers
stand at the right. Colour goes around a padded cell and changes nothing else.

Key definitions: `Table`, `Column`, `shrink`, `field`, `Table.render`.
Key theorem: `width_narrow_lt`.
-/

namespace DataGovernance

/-- Headers and rows of cells. Rows may be longer or shorter than the headers. -/
structure Table where
  headers : List String
  rows : List (List String)
  deriving DecidableEq, Repr

namespace Table

/-! ### Columns -/

/-- The least width of a column. -/
def leastWidth : Nat := 6

/-- The blanks between columns. -/
def gap : List Char := [' ', ' ']

/-- A column: its header, the width down to which it gives way, and its width. -/
structure Column where
  header : List Char
  floor : Nat
  width : Nat
  deriving DecidableEq, Repr

/-- Whether a column may be narrowed. -/
def Column.givesWay (c : Column) : Bool := c.floor < c.width

/-- The column with the given header, which holds the given cells. -/
def Column.ofCells (header : String) (cells : List String) : Column where
  header := header.toList
  floor := max header.utf8ByteSize leastWidth
  width := max ((header :: cells).foldr (fun s w => max s.length w) 0) leastWidth

/-- The columns of a table in their natural widths. -/
def columns (t : Table) : List Column :=
  t.headers.mapIdx fun j header => .ofCells header (t.rows.filterMap fun row => row[j]?)

/-- The width of columns side by side. -/
def width (cs : List Column) : Nat :=
  total (cs.map Column.width) + gap.length * (cs.length - 1)

/-! ### Narrowing -/

/-- The greatest width of a column that may be narrowed. -/
def greatest (cs : List Column) : Nat :=
  (cs.filter Column.givesWay).foldr (fun c w => max c.width w) 0

/-- Narrows the last column that may be narrowed and has the given width. -/
def narrowLast (w : Nat) : List Column → List Column
  | [] => []
  | c :: cs =>
    if cs.any fun d => d.givesWay && d.width == w then c :: narrowLast w cs
    else if c.givesWay && c.width == w then { c with width := c.width - 1 } :: cs
    else c :: cs

/-- Narrows the widest column that may be narrowed; of several the last one. -/
def narrow (cs : List Column) : List Column := narrowLast (greatest cs) cs

theorem length_narrowLast (w : Nat) : ∀ cs : List Column, (narrowLast w cs).length = cs.length
  | [] => rfl
  | c :: cs => by
    unfold narrowLast
    split
    · simp [length_narrowLast w cs]
    · split <;> rfl

theorem exists_width_greatest : ∀ {cs : List Column}, cs.any Column.givesWay →
    ∃ c ∈ cs, c.givesWay = true ∧ c.width = greatest cs
  | [], h => by simp at h
  | c :: cs, h => by
    simp only [greatest, List.filter_cons, List.any_cons, Bool.or_eq_true] at *
    by_cases hc : c.givesWay = true
    · rw [if_pos hc]
      simp only [List.foldr_cons]
      by_cases hr : cs.any Column.givesWay = true
      · obtain ⟨d, hd, hg, hw⟩ := exists_width_greatest hr
        unfold greatest at hw
        by_cases hle : c.width ≤ d.width
        · exact ⟨d, .tail _ hd, hg, by omega⟩
        · exact ⟨c, .head _, hc, by omega⟩
      · refine ⟨c, .head _, hc, ?_⟩
        have : cs.filter Column.givesWay = [] := by simpa using hr
        simp [this]
    · rw [if_neg hc]
      obtain ⟨d, hd, hg, hw⟩ := exists_width_greatest (h.resolve_left hc)
      exact ⟨d, .tail _ hd, hg, hw⟩

theorem total_narrowLast {w : Nat} : ∀ {cs : List Column},
    (∃ c ∈ cs, c.givesWay = true ∧ c.width = w) →
      total ((narrowLast w cs).map Column.width) + 1 = total (cs.map Column.width)
  | [], h => by simp at h
  | c :: cs, h => by
    unfold narrowLast
    split
    · rename_i hr
      have := @total_narrowLast w cs (by simpa using hr)
      simp only [List.map_cons, total_cons]
      omega
    · rename_i hr
      have hc : c.givesWay = true ∧ c.width = w := by
        obtain ⟨d, hd, hg⟩ := h
        rcases List.mem_cons.1 hd with rfl | hd
        · exact hg
        · exact absurd (by simpa using ⟨d, hd, hg⟩) hr
      rw [if_pos (by simpa using hc)]
      have := hc.1
      simp only [Column.givesWay, decide_eq_true_eq] at this
      simp only [List.map_cons, total_cons]
      omega

/-- Narrowing takes a character away as long as some column may be narrowed. -/
theorem width_narrow_lt {cs : List Column} (h : cs.any Column.givesWay) :
    width (narrow cs) < width cs := by
  have hs := total_narrowLast (exists_width_greatest h)
  simp only [width, narrow, length_narrowLast]
  omega

/-- Narrows columns one character at a time until they fit or none may be narrowed. -/
def shrink (limit : Nat) (cs : List Column) : List Column :=
  if limit < width cs ∧ cs.any Column.givesWay then shrink limit (narrow cs) else cs
termination_by width cs
decreasing_by exact width_narrow_lt (by simp_all)

/-- Columns narrowed to a limit, if there is one. -/
def fit (limit : Option Nat) (cs : List Column) : List Column :=
  match limit with
  | some limit => shrink limit cs
  | none => cs

/-! ### Fields -/

/-- The first characters of a text that is too long and an ellipsis. -/
def truncate (width : Nat) (cs : List Char) : List Char :=
  if cs.length ≤ width then cs else cs.take (width - 1) ++ ['…']

/-- Whether a text is made of digits, hyphens and points, with at least one digit. -/
def isNumeric (cs : List Char) : Bool :=
  cs.all (fun c => c.isDigit || c == '-' || c == '.') && cs.any Char.isDigit

/-- Blanks that fill a text up. -/
def filling (width : Nat) (cs : List Char) : List Char :=
  List.replicate (width - cs.length) ' '

/-- A text filled up with blanks, a number on the left and anything else on the right. -/
def pad (width : Nat) (cs : List Char) : List Char :=
  if isNumeric cs then filling width cs ++ cs else cs ++ filling width cs

/-- A colour of the terminal. -/
inductive Colour where
  | green
  | yellow
  | red
  deriving DecidableEq, Repr

/-- The digits that select a colour. -/
def Colour.code : Colour → List Char
  | green => ['3', '2']
  | yellow => ['3', '3']
  | red => ['3', '1']

/-- The colour of a word: green for what is done or harmless, yellow for what is under way, red for
what is open or bad. -/
def colour? (s : String) : Option Colour :=
  if ["true", "passed", "approved", "verified", "closed", "low"].contains s then some .green
  else if ["pending", "triaged", "resolving", "pending_verification", "medium"].contains s then
    some .yellow
  else if ["false", "rejected", "escalated", "critical", "high", "open"].contains s then some .red
  else none

/-- The character that begins a control sequence. -/
def escape : Char := '\x1b'

/-- Puts a text into a colour. -/
def Colour.paint (c : Colour) (cs : List Char) : List Char :=
  [escape, '['] ++ c.code ++ 'm' :: cs ++ [escape, '[', '0', 'm']

/-- A cell in a column of the given width. -/
def field (coloured : Bool) (width : Nat) (cell : String) : List Char :=
  let shown := truncate width cell.toList
  match if coloured then colour? (String.ofList shown) else none with
  | some c => c.paint (pad width shown)
  | none => pad width shown

/-! ### Lines -/

/-- What stands in the place of a missing cell. -/
def noCell : String := "-"

/-- Fields side by side. -/
def besides (fields : List (List Char)) : List Char := gap.intercalate fields

/-- The line of the headers. -/
def headerLine (cs : List Column) : List Char :=
  besides (cs.map fun c =>
    let shown := truncate c.width c.header
    shown ++ filling c.width shown)

/-- The line of a row, without blanks at its end. -/
def rowLine (coloured : Bool) (cs : List Column) (row : List String) : List Char :=
  Text.trimEnd (besides (cs.mapIdx fun j c => field coloured c.width (row[j]?.getD noCell)))

/-- The lines of a table: headers, a divider and rows. -/
def lines (limit : Option Nat) (coloured : Bool) (t : Table) : List (List Char) :=
  let cs := fit limit t.columns
  let header := headerLine cs
  header :: List.replicate header.length '-' :: t.rows.map (rowLine coloured cs)

/-- A table as text, at most as wide as the limit if that is possible. -/
def render (limit : Option Nat) (coloured : Bool) (t : Table) : String :=
  String.ofList (['\n'].intercalate (t.lines limit coloured))

end Table

end DataGovernance
