import DataGovernance.Command.Run
import DataGovernance.Proofs.Json.RoundTrip
import DataGovernance.Proofs.Json.WellFormed
import DataGovernance.Proofs.Table.Contents
import DataGovernance.Proofs.Table.Layout
import DataGovernance.Proofs.Time.RoundTrip

/-!
# What a printed answer tells

An answer is printed as JSON or as a table, and in each form it tells the same about the session it
is for. JSON is read back as the answer's object. In the table of an object without inner ones there
is a line for each member: its key, blanks and its value. Nothing is cut off as long as the table
may be as wide as the least limit that can be asked for, since keys and values of answers are short.

Key definitions: `HasLine`, `OutputFormat.Tells`, `BriefMembers`.
Key theorems: `Table.exists_rowLine_eq`, `BriefMembers.tells_render`, `Answer.tells_version_ofStep`,
`Answer.tells_step_ofStep`, `Answer.tells_version_ofMutation`.
-/

namespace DataGovernance

open Json Json.Value

/-- A text has a line of a name, blanks and another text. -/
def HasLine (output name text : String) : Prop :=
  ∃ n, '\n' :: (name.toList ++ List.replicate (n + 1) ' ' ++ text.toList) ++ ['\n'] <:+:
    output.toList

/-- An output in a form tells that a document stands under a name. In a table it is shown by a
text. -/
def OutputFormat.Tells (output name text : String) (d : Document) : OutputFormat → Prop
  | table => HasLine output name text
  | json | raw => ∃ members, Reading.ofText output = ⟨.object members, []⟩ ∧
      ∀ e, (.str name, e) ∈ members ↔ e = d

/-! ### Lines of a table -/

namespace Table

variable {limit : Option Nat} {coloured : Bool} {t : Table} {c d : Column} {name text : String}
  {line first : List Char} {rest : List (List Char)}

/-- Columns that fit stay as they are. -/
theorem fit_of_width_le {cols : List Column} (h : ∀ n ∈ limit, width cols ≤ n) :
    fit limit cols = cols := by
  cases limit with
  | none => rfl
  | some n =>
    have hn : ¬(n < width cols ∧ cols.any Column.givesWay = true) := fun hlt =>
      Nat.not_lt.2 (h n rfl) hlt.1
    rw [fit, shrink, if_neg hn]

theorem width_ofCells_le {header : String} {cells : List String} {n : Nat} (hn : leastWidth ≤ n)
    (h : ∀ s ∈ header :: cells, s.length ≤ n) : (Column.ofCells header cells).width ≤ n := by
  have hmax : ∀ {texts : List String}, (∀ s ∈ texts, s.length ≤ n) →
      texts.foldr (fun s w => max s.length w) 0 ≤ n := by
    intro texts htexts
    induction texts with
    | nil => exact Nat.zero_le n
    | cons s texts ih =>
      rw [List.forall_mem_cons] at htexts
      exact Nat.max_le.2 ⟨htexts.1, ih htexts.2⟩
  exact Nat.max_le.2 ⟨hmax h, hn⟩

/-- A text in no colour that fits its column stands in it as it is, with blanks beside it. -/
theorem field_eq_pad {w : Nat} (hlength : text.length ≤ w) (hcolour : colour? text = none) :
    field coloured w text = pad w text.toList := by
  have hshown : truncate w text.toList = text.toList := (shows_truncate w _).whole (by simpa)
  have hnone : (if coloured then colour? text else none) = none := by
    split
    · exact hcolour
    · rfl
  rw [field, hshown, String.ofList_toList, hnone]

/-- Padding puts blanks in front or behind. -/
theorem exists_pad_eq (w : Nat) (cs : List Char) :
    ∃ k m, pad w cs = List.replicate k ' ' ++ cs ++ List.replicate m ' ' := by
  unfold pad filling
  split
  · exact ⟨w - cs.length, 0, by simp⟩
  · exact ⟨0, w - cs.length, by simp⟩

/-- A text that ends in no blank is kept at the end of a line. -/
theorem trimEnd_append_eq {cs : List Char} (h : ∃ a ∈ cs.getLast?, Text.isBlankChar a = false)
    (before : List Char) : Text.trimEnd (before ++ cs) = before ++ cs := by
  obtain ⟨a, ha, hblank⟩ := h
  obtain ⟨front, rfl⟩ := List.getLast?_eq_some_iff.1 ha
  rw [← List.append_assoc]
  exact List.rdropWhile_concat_neg _ _ _ (by simp [hblank])

/-- A name is plain in a table when it is neither filled up on the left nor put into a colour. -/
structure IsPlainName (name : String) : Prop where
  word : isNumeric name.toList = false
  colour : colour? name = none

/-- A text is plain in a table when it is in no colour and its end is not dropped. -/
structure IsPlainText (text : String) : Prop where
  colour : colour? text = none
  last : ∃ a ∈ text.toList.getLast?, Text.isBlankChar a = false

/-- The line of a name and a text that fit their columns. -/
theorem exists_rowLine_eq (coloured : Bool) (hname : name.length ≤ c.width)
    (htext : text.length ≤ d.width) (hname' : IsPlainName name) (htext' : IsPlainText text) :
    ∃ n, rowLine coloured [c, d] [name, text] =
      name.toList ++ List.replicate (n + 1) ' ' ++ text.toList := by
  obtain ⟨k, m, hpad⟩ := exists_pad_eq d.width text.toList
  have hleft : pad c.width name.toList = name.toList ++ filling c.width name.toList := by
    rw [pad, hname'.word]
    rfl
  have hspaces : ∀ b ∈ List.replicate m ' ', Text.isBlankChar b = true := fun b hb =>
    List.eq_of_mem_replicate hb ▸ rfl
  refine ⟨c.width - name.toList.length + 1 + k, ?_⟩
  have hblanks : List.replicate (c.width - name.toList.length + 1 + k + 1) ' ' =
      filling c.width name.toList ++ gap ++ List.replicate k ' ' := by
    have hcount : c.width - name.toList.length + 1 + k + 1 =
        c.width - name.toList.length + 2 + k := by omega
    rw [hcount, List.replicate_add, List.replicate_add]
    rfl
  have hfields : besides (rowFields coloured [c, d] [name, text]) =
      name.toList ++ List.replicate (c.width - name.toList.length + 1 + k + 1) ' ' ++
        text.toList ++ List.replicate m ' ' := by
    rw [hblanks]
    simp [rowFields, besides, field_eq_pad hname hname'.colour,
      field_eq_pad htext htext'.colour, hleft, hpad]
  rw [rowLine_eq, hfields, Text.trimEnd_append hspaces, trimEnd_append_eq htext'.last]

/-- Each line behind the first one stands between two line ends when one more follows the last. -/
theorem isInfix_intercalate (h : line ∈ rest) :
    '\n' :: line ++ ['\n'] <:+: ['\n'].intercalate (first :: rest) ++ ['\n'] := by
  induction rest generalizing first with
  | nil => cases h
  | cons next rest ih =>
    rw [List.intercalate_cons_cons, List.append_assoc]
    rcases List.mem_cons.1 h with rfl | h
    · -- the line is the next one, and a line end follows it
      have hnext : line ++ ['\n'] <+: ['\n'].intercalate (line :: rest) ++ ['\n'] := by
        cases rest with
        | nil => simp
        | cons => simp [List.intercalate_cons_cons]
      obtain ⟨back, hback⟩ := hnext
      exact ⟨first, back, by simp [← hback]⟩
    · exact (@ih next h).trans ⟨first ++ ['\n'], [], by simp⟩

/-- Every row is a name and a text that are short enough for every table. -/
def IsBrief (rows : List (List String)) : Prop :=
  ∀ row ∈ rows, ∃ name text, row = [name, text] ∧ name.length ≤ 8 ∧ text.length ≤ 28

variable {rows : List (List String)}

theorem width_columns_le (h : IsBrief rows) :
    width (columns ⟨["field", "value"], rows⟩) ≤ Surroundings.leastWidth := by
  have hnames : ∀ s ∈ "field" :: rows.filterMap (·[0]?), s.length ≤ 8 := by
    refine List.forall_mem_cons.2 ⟨by decide, fun s hs => ?_⟩
    obtain ⟨row, hrow, hs⟩ := List.mem_filterMap.1 hs
    obtain ⟨name, text, rfl, hname, -⟩ := h row hrow
    cases hs
    exact hname
  have htexts : ∀ s ∈ "value" :: rows.filterMap (·[1]?), s.length ≤ 28 := by
    refine List.forall_mem_cons.2 ⟨by decide, fun s hs => ?_⟩
    obtain ⟨row, hrow, hs⟩ := List.mem_filterMap.1 hs
    obtain ⟨name, text, rfl, -, htext⟩ := h row hrow
    cases hs
    exact htext
  have hleft := width_ofCells_le (by decide) hnames
  have hright := width_ofCells_le (by decide) htexts
  have hwidth : width (columns ⟨["field", "value"], rows⟩) =
      (Column.ofCells "field" (rows.filterMap (·[0]?))).width +
        ((Column.ofCells "value" (rows.filterMap (·[1]?))).width + 0) + 2 := rfl
  have hleast : Surroundings.leastWidth = 40 := rfl
  omega

/-- A row has its line in every table of brief rows that has the least width there is. -/
theorem hasLine_render (h : IsBrief rows) (hlimit : ∀ n ∈ limit, Surroundings.leastWidth ≤ n)
    (hmem : [name, text] ∈ rows) (hname : IsPlainName name) (htext : IsPlainText text) :
    HasLine (render limit coloured ⟨["field", "value"], rows⟩ ++ "\n") name text := by
  have hfit : fit limit (columns ⟨["field", "value"], rows⟩) =
      [.ofCells "field" (rows.filterMap (·[0]?)), .ofCells "value" (rows.filterMap (·[1]?))] :=
    fit_of_width_le fun n hn => Nat.le_trans (width_columns_le h) (hlimit n hn)
  have hleft := length_le_width_columns (t := ⟨["field", "value"], rows⟩) (j := 0) hmem rfl rfl
  have hright := length_le_width_columns (t := ⟨["field", "value"], rows⟩) (j := 1) hmem rfl rfl
  obtain ⟨n, hline⟩ := exists_rowLine_eq coloured hleft hright hname htext
  refine ⟨n, ?_⟩
  rw [← hline, render, lines, hfit, String.toList_append, String.toList_ofList]
  exact isInfix_intercalate (.tail _ (List.mem_map_of_mem hmem))

end Table

/-! ### Objects without inner ones -/

/-- A value has no parts, and is short enough for every table. -/
structure IsBrief (v : Value) : Prop where
  inRange : v.InRange
  scalar : v.members? = none
  sorted : v.sortKeys = v
  short : (Table.cell v).length ≤ 28

/-- Different keys have brief values and are short themselves. -/
structure BriefMembers (members : List (String × Value)) : Prop where
  nodup : (members.map Prod.fst).Nodup
  keys : ∀ m ∈ members, m.1.length ≤ 8
  values : ∀ m ∈ members, IsBrief m.2

variable {members : List (String × Value)} {name : String} {v : Value} {e : Document}

theorem Table.flatten_of_scalars (h : ∀ m ∈ members, m.2.members? = none) :
    flatten "" members = members.map fun m => (m.1, cell m.2) := by
  induction members with
  | nil => rw [flatten, List.map_nil]
  | cons m members ih =>
    obtain ⟨key, v⟩ := m
    rw [List.forall_mem_cons] at h
    rw [flatten, ih h.2]
    · rfl
    · rintro inner rfl
      cases h.1

theorem mem_ofMembers_iff :
    (.str name, e) ∈ Document.ofMembers members ↔ ∃ v, (name, v) ∈ members ∧ e = .ofValue v := by
  induction members with
  | nil => simp [Document.ofMembers]
  | cons m members ih =>
    simp only [Document.ofMembers, List.mem_cons, ih]
    constructor
    · rintro (h | ⟨v, hmem, rfl⟩)
      · cases h
        exact ⟨m.2, .inl rfl, rfl⟩
      · exact ⟨v, .inr hmem, rfl⟩
    · rintro ⟨v, rfl | hmem, rfl⟩
      · exact .inl rfl
      · exact .inr ⟨v, hmem, rfl⟩

theorem membersInRange_of_forall (h : ∀ m ∈ members, m.2.InRange) : MembersInRange members := by
  induction members with
  | nil => trivial
  | cons m members ih =>
    rw [List.forall_mem_cons] at h
    exact ⟨h.1, ih h.2⟩

namespace BriefMembers

theorem sortedMembers_perm (h : BriefMembers members) :
    (sortedMembers members).Perm members := by
  have hmap : (members.map fun m => (m.1, m.2.sortKeys)) = members := by
    refine (List.map_congr_left fun m hm => ?_).trans (List.map_id members)
    exact Prod.ext rfl (h.values m hm).sorted
  have hperm := Value.sortedMembers_perm members
  rwa [hmap] at hperm

/-- The table of an object with the members has a row for each of them. -/
theorem ofValue?_eq (h : BriefMembers members) :
    Table.ofValue? (Value.object members).sortKeys = some ⟨["field", "value"],
      (sortedMembers members).map fun m => [m.1, Table.cell m.2]⟩ := by
  have hscalar : ∀ m ∈ sortedMembers members, m.2.members? = none := fun m hm =>
    (h.values m (h.sortedMembers_perm.subset hm)).scalar
  rw [sortKeys_object, Table.ofValue?, Table.flatten_of_scalars hscalar, List.map_map]
  rfl

theorem isBrief_rows (h : BriefMembers members) :
    Table.IsBrief ((sortedMembers members).map fun m => [m.1, Table.cell m.2]) := by
  intro row hrow
  obtain ⟨m, hm, rfl⟩ := List.mem_map.1 hrow
  have hmem := h.sortedMembers_perm.subset hm
  exact ⟨m.1, Table.cell m.2, rfl, h.keys m hmem, (h.values m hmem).short⟩

/-- Only the document of the member's value stands under its key. -/
theorem mem_iff (h : BriefMembers members) (hmem : (name, v) ∈ members) :
    (.str name, e) ∈ Document.ofMembers members ↔ e = .ofValue v := by
  rw [mem_ofMembers_iff]
  constructor
  · rintro ⟨w, hw, rfl⟩
    have hlookup := (lookup_eq_some_iff_mem h.nodup).2 hw
    rw [(lookup_eq_some_iff_mem h.nodup).2 hmem] at hlookup
    rw [Option.some.inj hlookup]
  · exact fun he => ⟨v, hmem, he⟩

/-- **A printed object tells each of its members** in every form. -/
theorem tells_render (h : BriefMembers members) {style : TableStyle}
    (hstyle : ∀ n ∈ style.limit, Surroundings.leastWidth ≤ n) (hmem : (name, v) ∈ members)
    (hname : Table.IsPlainName name) (htext : Table.IsPlainText (Table.cell v))
    (format : OutputFormat) :
    format.Tells (format.render style (.object members) ++ "\n") name (Table.cell v)
      (.ofValue v) := by
  have hjson : ∀ {s : Style}, s.Blank →
      ∃ ms, Reading.ofText (String.ofList ((Value.object members).write s 0) ++ "\n") =
        ⟨.object ms, []⟩ ∧ ∀ e, (.str name, e) ∈ ms ↔ e = .ofValue v := by
    intro s hs
    have hrange : (Value.object members).InRange :=
      membersInRange_of_forall fun m hm => (h.values m hm).inRange
    have hblank : ∀ c ∈ ['\n'], Token.isSpace c = true := List.forall_mem_singleton.2 rfl
    have hread := Reading.ofText_write hs 0 hrange hblank
    rw [String.ofList_append] at hread
    exact ⟨_, hread, fun e => h.mem_iff hmem⟩
  cases format with
  | json => exact hjson Style.blank_indented
  | raw => exact hjson Style.blank_compact
  | table =>
    have hrow : [name, Table.cell v] ∈
        (sortedMembers members).map fun m => [m.1, Table.cell m.2] :=
      List.mem_map.2 ⟨_, h.sortedMembers_perm.mem_iff.2 hmem, rfl⟩
    rw [OutputFormat.render, h.ofValue?_eq]
    exact Table.hasLine_render h.isBrief_rows hstyle hrow hname htext

end BriefMembers

/-! ### Answers to operations -/

theorem toList_repr (n : Nat) : n.repr.toList = Text.digits n := by
  rw [Nat.repr_eq_ofList_toDigits, String.toList_ofList]
  rfl

/-- A number in digits is in no colour and has no blanks at its end. -/
theorem isPlainText_repr (n : Nat) : Table.IsPlainText n.repr := by
  have hnot : ∀ w : String, w.toList.all Char.isDigit = false → n.repr ≠ w := by
    rintro w hw rfl
    rw [toList_repr, List.all_eq_true.2 fun _ => Text.isDigit_of_mem_digits] at hw
    cases hw
  constructor
  · simp (disch := decide) [Table.colour?, hnot]
  · rw [toList_repr]
    have hlast := List.getLast_mem (Text.digits_ne_nil n)
    exact ⟨_, List.getLast?_eq_some_getLast (Text.digits_ne_nil n),
      Time.not_isBlankChar_of_isDigit (Text.isDigit_of_mem_digits hlast)⟩

theorem cell_nat (n : Nat) : Table.cell (.nat n) = n.repr := by
  rw [← String.toList_inj, toList_repr]
  exact String.toList_ofList

namespace IsBrief

theorem word {α : Type} [Vocabulary α] (h : ∀ w ∈ Vocabulary.words α, w.length ≤ 28) (a : α) :
    IsBrief (wordValue a) where
  inRange := trivial
  scalar := rfl
  sorted := rfl
  short := h _ (List.mem_map_of_mem (Vocabulary.mem_members a))

theorem count (n : Count) : IsBrief (.nat n.val) where
  inRange := by
    have hn := n.isLt
    simp only [Value.nat, InRange]
    omega
  scalar := rfl
  sorted := rfl
  short := by
    rw [cell_nat, ← String.length_toList, toList_repr]
    exact (Nat.length_toDigits_le_iff (by decide) (by decide)).2 (Nat.lt_trans n.isLt (by decide))

theorem flag (b : Bool) : IsBrief (.bool b) where
  inRange := trivial
  scalar := rfl
  sorted := rfl
  short := by cases b <;> decide

end IsBrief

theorem isPlainText_step (s : Step) : Table.IsPlainText (Vocabulary.word s) := by
  cases s <;> exact ⟨by decide, _, rfl, by decide⟩

theorem isBrief_step (s : Step) : IsBrief (wordValue s) := .word (by decide) s

/-- A printed object with a version tells it. -/
theorem BriefMembers.tells_version (h : BriefMembers members) {style : TableStyle}
    (hstyle : ∀ n ∈ style.limit, Surroundings.leastWidth ≤ n) {n : Nat}
    (hmem : ("version", .nat n) ∈ members) (format : OutputFormat) :
    format.Tells (format.render style (.object members) ++ "\n") "version" n.repr
      (.num (.int n)) := by
  have htext : Table.IsPlainText (Table.cell (.nat n)) := cell_nat n ▸ isPlainText_repr n
  have htells := h.tells_render hstyle hmem ⟨by decide, by decide⟩ htext format
  rwa [cell_nat] at htells

theorem briefMembers_ofStep (before after : Session) (write : Bool) :
    BriefMembers [
      ("from", wordValue before.step),
      ("to", wordValue after.step),
      ("phase", wordValue after.step.phase),
      ("version", .nat after.version.val),
      ("written", .bool write)] where
  nodup := (by decide : ["from", "to", "phase", "version", "written"].Nodup)
  keys := by
    simp only [List.forall_mem_cons, List.not_mem_nil, false_implies, implies_true, and_true]
    decide
  values := by
    simp only [List.forall_mem_cons]
    exact ⟨isBrief_step _, isBrief_step _, .word (by decide) _, .count _, .flag _,
      List.forall_mem_nil _⟩

theorem briefMembers_ofMutation (kind : MutationKind) (after : Session) (write : Bool) :
    BriefMembers [
      ("mutation", wordValue kind),
      ("version", .nat after.version.val),
      ("written", .bool write)] where
  nodup := (by decide : ["mutation", "version", "written"].Nodup)
  keys := by
    simp only [List.forall_mem_cons, List.not_mem_nil, false_implies, implies_true, and_true]
    decide
  values := by
    simp only [List.forall_mem_cons]
    exact ⟨.word (by decide) _, .count _, .flag _, List.forall_mem_nil _⟩

namespace Answer

variable {style : TableStyle} (hstyle : ∀ n ∈ style.limit, Surroundings.leastWidth ≤ n)
  (format : OutputFormat) (before after : Session) (kind : MutationKind) (write : Bool)
include hstyle

theorem tells_version_ofStep :
    format.Tells (format.render style (ofStep before after write).value ++ "\n") "version"
      after.version.val.repr (.num (.int after.version.val)) :=
  (briefMembers_ofStep before after write).tells_version hstyle (by simp) format

/-- **The answer to a step tells the step that it led to.** -/
theorem tells_step_ofStep :
    format.Tells (format.render style (ofStep before after write).value ++ "\n") "to"
      (Vocabulary.word after.step) (.str (Vocabulary.word after.step)) :=
  (briefMembers_ofStep before after write).tells_render hstyle (v := wordValue after.step)
    (by simp) ⟨by decide, by decide⟩ (isPlainText_step after.step) format

theorem tells_version_ofMutation :
    format.Tells (format.render style (ofMutation kind after write).value ++ "\n") "version"
      after.version.val.repr (.num (.int after.version.val)) :=
  (briefMembers_ofMutation kind after write).tells_version hstyle (by simp) format

end Answer

end DataGovernance
