import DataGovernance.Proofs.Table.Limit
import DataGovernance.Proofs.Text.Clean
import DataGovernance.Proofs.Time.RoundTrip

/-!
# Colour changes no text

Colour is put around a field that has been filled up to the width of its column, so what a terminal
shows of a table is the same with colour and without, up to blanks at the ends of rows: those within
a coloured field are not cut.

Taking the colour out of a text is compatible with cutting the text in front of any character that
cannot go on a sequence. Blanks, line ends and the escape character are such, and these are where a
table is put together.

Key definitions: `afterSequence?`, `uncoloured`, `GoesOnNoSequence`, `trimRows`.
Key theorems: `afterSequence?_eq_some_iff`, `uncoloured_append`, `uncoloured_field`,
`trimEnd_uncoloured_rowLine`, `uncoloured_render`.
-/

namespace DataGovernance.Table

/-! ### Taking colour out of a text -/

/-- What follows the sequence with which a text begins: an escape character, a bracket, digits and
an `m`. -/
def afterSequence? : List Char → Option (List Char)
  | c :: '[' :: cs =>
    if c = escape ∧ cs.takeWhile Char.isDigit ≠ [] then
      match cs.dropWhile Char.isDigit with
      | 'm' :: rest => some rest
      | _ => none
    else none
  | _ => none

variable {b c : Char} {cs ds rest : List Char}

theorem afterSequence?_eq_some_iff :
    afterSequence? cs = some rest ↔
      ∃ digits, digits ≠ [] ∧ (∀ d ∈ digits, d.isDigit = true) ∧
        cs = escape :: '[' :: (digits ++ 'm' :: rest) := by
  constructor
  · intro h
    unfold afterSequence? at h
    split at h
    · rename_i c cs
      by_cases hfront : c = escape ∧ cs.takeWhile Char.isDigit ≠ []
      · rw [if_pos hfront] at h
        split at h
        · rename_i r hdrop
          obtain rfl : r = rest := Option.some.inj h
          refine ⟨cs.takeWhile Char.isDigit, hfront.2, fun d hd => List.mem_takeWhile_imp hd, ?_⟩
          rw [← hdrop, List.takeWhile_append_dropWhile, hfront.1]
        · cases h
      · rw [if_neg hfront] at h
        cases h
    · cases h
  · rintro ⟨digits, hne, hdigits, rfl⟩
    have htake : (digits ++ 'm' :: rest).takeWhile Char.isDigit = digits := by
      rw [List.takeWhile_append_of_pos hdigits, List.takeWhile_cons_of_neg (by decide),
        List.append_nil]
    have hdrop : (digits ++ 'm' :: rest).dropWhile Char.isDigit = 'm' :: rest := by
      rw [List.dropWhile_append_of_pos hdigits, List.dropWhile_cons_of_neg (by decide)]
    have hfront : escape = escape ∧ (digits ++ 'm' :: rest).takeWhile Char.isDigit ≠ [] :=
      ⟨rfl, by rwa [htake]⟩
    rw [afterSequence?, if_pos hfront, hdrop]
    rfl

theorem length_afterSequence?_lt (h : afterSequence? cs = some rest) : rest.length < cs.length := by
  obtain ⟨digits, -, -, rfl⟩ := afterSequence?_eq_some_iff.1 h
  simp only [List.length_cons, List.length_append]
  omega

/-- A text without the sequences that select colours. -/
def uncoloured : List Char → List Char
  | [] => []
  | c :: cs =>
    match _ : afterSequence? (c :: cs) with
    | some rest => uncoloured rest
    | none => c :: uncoloured cs
termination_by cs => cs.length
decreasing_by
  · exact length_afterSequence?_lt (by assumption)
  · exact Nat.lt_succ_self cs.length

theorem uncoloured_nil : uncoloured [] = [] := by rw [uncoloured]

theorem uncoloured_of_some (h : afterSequence? cs = some rest) :
    uncoloured cs = uncoloured rest := by
  cases cs with
  | nil => cases h
  | cons c cs =>
    rw [uncoloured]
    split
    · rename_i r hr
      rw [h] at hr
      rw [Option.some.inj hr]
    · rename_i hr
      rw [h] at hr
      cases hr

theorem uncoloured_of_none (h : afterSequence? (c :: cs) = none) :
    uncoloured (c :: cs) = c :: uncoloured cs := by
  rw [uncoloured]
  split
  · rename_i r hr
    rw [h] at hr
    cases hr
  · rfl

theorem uncoloured_cons (hc : c ≠ escape) : uncoloured (c :: cs) = c :: uncoloured cs := by
  refine uncoloured_of_none (Option.eq_none_iff_forall_ne_some.2 fun rest h => hc ?_)
  obtain ⟨digits, -, -, he⟩ := afterSequence?_eq_some_iff.1 h
  exact (List.cons.inj he).1

theorem uncoloured_append_of_not_mem (h : escape ∉ cs) (ds : List Char) :
    uncoloured (cs ++ ds) = cs ++ uncoloured ds := by
  induction cs with
  | nil => rfl
  | cons c cs ih =>
    rw [List.mem_cons, not_or] at h
    rw [List.cons_append, uncoloured_cons (Ne.symm h.1), ih h.2, List.cons_append]

theorem uncoloured_eq_self (h : escape ∉ cs) : uncoloured cs = cs := by
  have hself := uncoloured_append_of_not_mem h []
  rwa [uncoloured_nil, List.append_nil] at hself

/-! ### Where a text may be cut -/

/-- A character stands in a sequence at most in front. -/
structure GoesOnNoSequence (b : Char) : Prop where
  ne_bracket : b ≠ '['
  not_digit : b.isDigit = false
  ne_m : b ≠ 'm'

theorem goesOnNoSequence_escape : GoesOnNoSequence escape := ⟨by decide, by decide, by decide⟩

theorem goesOnNoSequence_of_isBlankChar (h : Text.isBlankChar b = true) : GoesOnNoSequence b where
  ne_bracket := by
    rintro rfl
    cases h
  not_digit := by
    cases hdigit : b.isDigit with
    | false => rfl
    | true =>
      rw [Time.not_isBlankChar_of_isDigit hdigit] at h
      cases h
  ne_m := by
    rintro rfl
    cases h

theorem afterSequence?_append (h : afterSequence? cs = some rest) (ds : List Char) :
    afterSequence? (cs ++ ds) = some (rest ++ ds) := by
  obtain ⟨digits, hne, hdigits, rfl⟩ := afterSequence?_eq_some_iff.1 h
  exact afterSequence?_eq_some_iff.2 ⟨digits, hne, hdigits, by simp⟩

theorem afterSequence?_append_eq_none (hb : GoesOnNoSequence b)
    (h : afterSequence? (c :: cs) = none) (ds : List Char) :
    afterSequence? (c :: cs ++ b :: ds) = none := by
  refine Option.eq_none_iff_forall_ne_some.2 fun rest hrest => ?_
  obtain ⟨digits, hne, hdigits, he⟩ := afterSequence?_eq_some_iff.1 hrest
  have hcut : c :: cs ++ b :: ds = (escape :: '[' :: (digits ++ ['m'])) ++ rest := by
    rw [he]
    simp
  -- the sequence ends within the first part, or it contains the character behind that part
  rcases List.append_eq_append_iff.1 hcut with ⟨front, hseq, hback⟩ | ⟨front, hfront, -⟩
  · cases front with
    | nil =>
      have hnow : afterSequence? (c :: cs) = some [] :=
        afterSequence?_eq_some_iff.2
          ⟨digits, hne, hdigits, by rw [← List.append_nil (c :: cs), ← hseq]⟩
      rw [hnow] at h
      cases h
    | cons b' front =>
      obtain rfl : b = b' := (List.cons.inj hback).1
      have hmem : b ∈ '[' :: (digits ++ ['m']) := by
        rw [(List.cons.inj hseq).2]
        exact List.mem_append_right cs (.head _)
      simp only [List.mem_cons, List.mem_append, List.not_mem_nil, or_false] at hmem
      rcases hmem with hmem | hmem | hmem
      · exact hb.ne_bracket hmem
      · exact absurd (hdigits b hmem) (by rw [hb.not_digit]; decide)
      · exact hb.ne_m hmem
  · have hnow : afterSequence? (c :: cs) = some front :=
      afterSequence?_eq_some_iff.2 ⟨digits, hne, hdigits, by rw [hfront]; simp⟩
    rw [hnow] at h
    cases h

/-- Colour is taken out piece by piece where no sequence can go on. -/
theorem uncoloured_append (hb : GoesOnNoSequence b) (cs ds : List Char) :
    uncoloured (cs ++ b :: ds) = uncoloured cs ++ uncoloured (b :: ds) := by
  induction cs using uncoloured.induct with
  | case1 => rw [uncoloured_nil, List.nil_append, List.nil_append]
  | case2 c cs rest h ih =>
    rw [uncoloured_of_some (afterSequence?_append h (b :: ds)), uncoloured_of_some h, ih]
  | case3 c cs h ih =>
    have hcut : afterSequence? (c :: (cs ++ b :: ds)) = none :=
      afterSequence?_append_eq_none hb h ds
    rw [List.cons_append, uncoloured_of_none hcut, uncoloured_of_none h, ih, List.cons_append]

theorem uncoloured_append_blanks {blanks : List Char}
    (h : ∀ b ∈ blanks, Text.isBlankChar b = true) (cs : List Char) :
    uncoloured (cs ++ blanks) = uncoloured cs ++ blanks := by
  have hnone : escape ∉ blanks := fun hmem => absurd (h escape hmem) (by decide)
  cases blanks with
  | nil => rw [List.append_nil, List.append_nil]
  | cons b blanks =>
    rw [uncoloured_append (goesOnNoSequence_of_isBlankChar (h b (.head _))),
      uncoloured_eq_self hnone]

/-- Colour is taken out of the parts that a text is joined from. -/
theorem uncoloured_intercalate (hb : GoesOnNoSequence b) (h : escape ∉ b :: ds) :
    ∀ parts : List (List Char),
      uncoloured ((b :: ds).intercalate parts) = (b :: ds).intercalate (parts.map uncoloured)
  | [] => uncoloured_nil
  | [part] => by simp
  | part :: next :: parts => by
    have ih := uncoloured_intercalate hb h (next :: parts)
    calc uncoloured ((b :: ds).intercalate (part :: next :: parts))
        = uncoloured (part ++ b :: (ds ++ (b :: ds).intercalate (next :: parts))) := by
          rw [List.intercalate_cons_cons, List.append_assoc, List.cons_append]
      _ = uncoloured part ++ uncoloured (b :: ds ++ (b :: ds).intercalate (next :: parts)) :=
          uncoloured_append hb part _
      _ = uncoloured part ++
            (b :: ds ++ (b :: ds).intercalate ((next :: parts).map uncoloured)) := by
          rw [uncoloured_append_of_not_mem h, ih]
      _ = (b :: ds).intercalate ((part :: next :: parts).map uncoloured) := by
          simp only [List.map_cons, List.intercalate_cons_cons, List.append_assoc]

/-! ### Fields and lines -/

variable {width : Nat} {limit : Option Nat} {t : Table} {cols : List Column} {row : List String}

theorem uncoloured_paint (colour : Colour) (h : escape ∉ cs) :
    uncoloured (colour.paint cs) = cs := by
  have hne : colour.code ≠ [] := by cases colour <;> exact List.cons_ne_nil _ _
  have hdigits : colour.code.all Char.isDigit = true := by cases colour <;> rfl
  have hfront : afterSequence? (colour.paint cs) = some (cs ++ escape :: ['[', '0', 'm']) :=
    afterSequence?_eq_some_iff.2
      ⟨colour.code, hne, List.all_eq_true.1 hdigits, by simp [Colour.paint]⟩
  have hback : afterSequence? (escape :: ['[', '0', 'm']) = some [] := rfl
  rw [uncoloured_of_some hfront, uncoloured_append goesOnNoSequence_escape, uncoloured_eq_self h,
    uncoloured_of_some hback, uncoloured_nil, List.append_nil]

theorem field_true (width : Nat) (cell : String) :
    field true width cell =
      match colour? (String.ofList (truncate width cell.toList)) with
      | some colour => colour.paint (field false width cell)
      | none => field false width cell := by
  cases hcolour : colour? (String.ofList (truncate width cell.toList)) <;>
    simp only [field, ↓reduceIte, Bool.false_eq_true, hcolour]

/-- Without its colour a field is the one in a table without colour. -/
theorem uncoloured_field {cell : String} (h : escape ∉ cell.toList) :
    uncoloured (field true width cell) = field false width cell := by
  have hplain : escape ∉ field false width cell := by
    intro hmem
    rcases mem_field hmem with hmem | hmem | hmem
    · exact h hmem
    · cases hmem
    · cases hmem
  rw [field_true]
  split
  · exact uncoloured_paint _ hplain
  · exact uncoloured_eq_self hplain

theorem uncoloured_rowFields (cols : List Column) (h : ∀ cell ∈ row, escape ∉ cell.toList) :
    uncoloured (besides (rowFields true cols row)) = besides (rowFields false cols row) := by
  have hblank : GoesOnNoSequence ' ' := goesOnNoSequence_of_isBlankChar (by decide)
  rw [besides, gap, uncoloured_intercalate hblank (by decide)]
  refine congrArg besides (List.ext_getElem (by simp [length_rowFields]) fun j hj _ => ?_)
  simp only [rowFields, List.getElem_map, List.getElem_mapIdx]
  cases hcell : row[j]? with
  | none => exact uncoloured_field (by decide)
  | some cell => exact uncoloured_field (h cell (List.mem_of_getElem? hcell))

/-- A coloured row without its colour is the fields without colour up to blanks at the end. -/
theorem exists_uncoloured_rowLine (cols : List Column) (h : ∀ cell ∈ row, escape ∉ cell.toList) :
    ∃ blanks, (∀ b ∈ blanks, Text.isBlankChar b = true) ∧
      uncoloured (rowLine true cols row) ++ blanks = besides (rowFields false cols row) := by
  obtain ⟨blanks, hblanks, hcut⟩ := Text.exists_trimEnd_append (besides (rowFields true cols row))
  refine ⟨blanks, hblanks, ?_⟩
  rw [← uncoloured_append_blanks hblanks, rowLine_eq, hcut, uncoloured_rowFields cols h]

theorem trimEnd_uncoloured_rowLine (h : ∀ cell ∈ row, escape ∉ cell.toList) :
    Text.trimEnd (uncoloured (rowLine true cols row)) = rowLine false cols row := by
  obtain ⟨blanks, hblanks, hcut⟩ := exists_uncoloured_rowLine cols h
  calc Text.trimEnd (uncoloured (rowLine true cols row))
      = Text.trimEnd (uncoloured (rowLine true cols row) ++ blanks) :=
        (Text.trimEnd_append hblanks _).symm
    _ = rowLine false cols row := by rw [hcut, rowLine_eq]

theorem not_mem_uncoloured_rowLine (h : ∀ cell ∈ row, escape ∉ cell.toList) {a : Char}
    (hlayout : a ∉ [' ', '-', '…']) (ha : ∀ cell ∈ row, a ∉ cell.toList) :
    a ∉ uncoloured (rowLine true cols row) := by
  obtain ⟨blanks, -, hcut⟩ := exists_uncoloured_rowLine cols h
  exact fun hmem => not_mem_rowFields hlayout ha (hcut ▸ List.mem_append_left blanks hmem)

/-! ### The whole table -/

/-- A text with its lines after the second cut behind their last character that is not blank. -/
def trimRows (cs : List Char) : List Char :=
  let lines := cs.splitOn '\n'
  ['\n'].intercalate (lines.take 2 ++ (lines.drop 2).map Text.trimEnd)

theorem uncoloured_render_eq :
    uncoloured (t.render limit true).toList =
      ['\n'].intercalate ((t.lines limit true).map uncoloured) := by
  have hbreak : GoesOnNoSequence '\n' := goesOnNoSequence_of_isBlankChar (by decide)
  rw [render, String.toList_ofList]
  exact uncoloured_intercalate hbreak (by decide) _

theorem map_uncoloured_lines (h : Lacks escape t) :
    (t.lines limit true).map uncoloured =
      headerLine (fit limit t.columns) ::
        List.replicate (headerLine (fit limit t.columns)).length '-' ::
          t.rows.map fun row => uncoloured (rowLine true (fit limit t.columns) row) := by
  have hheader : escape ∉ headerLine (fit limit t.columns) := not_mem_headerLine (by decide) h
  have hdivider : escape ∉ List.replicate (headerLine (fit limit t.columns)).length '-' :=
    fun hmem => absurd (List.eq_of_mem_replicate hmem) (by decide)
  rw [lines, List.map_cons, List.map_cons, uncoloured_eq_self hheader, uncoloured_eq_self hdivider,
    List.map_map]
  rfl

/-- **Colour changes no text.** If no header and no cell has an escape character or a line end, the
table with colour, without the sequences that select colours and with its rows cut behind their last
character that is not blank, is the table without colour. -/
theorem uncoloured_render (t : Table) (limit : Option Nat) (hescape : Lacks escape t)
    (hbreak : Lacks '\n' t) :
    trimRows (uncoloured (t.render limit true).toList) = (t.render limit false).toList := by
  have hlines : (uncoloured (t.render limit true).toList).splitOn '\n' =
      (t.lines limit true).map uncoloured := by
    rw [uncoloured_render_eq]
    refine List.splitOn_intercalate '\n' (fun line hline => ?_) (by simp [lines_ne_nil])
    rw [map_uncoloured_lines hescape] at hline
    simp only [List.mem_cons, List.mem_map] at hline
    rcases hline with rfl | rfl | ⟨row, hrow, rfl⟩
    · exact not_mem_headerLine (by decide) hbreak
    · exact fun hmem => absurd (List.eq_of_mem_replicate hmem) (by decide)
    · exact not_mem_uncoloured_rowLine (hescape.2 row hrow) (by decide) (hbreak.2 row hrow)
  have hrows : (t.rows.map fun row => uncoloured (rowLine true (fit limit t.columns) row)).map
      Text.trimEnd = t.rows.map (rowLine false (fit limit t.columns)) := by
    rw [List.map_map]
    exact List.map_congr_left fun row hrow => trimEnd_uncoloured_rowLine (hescape.2 row hrow)
  rw [trimRows, hlines, map_uncoloured_lines hescape, List.drop_succ_cons, List.drop_succ_cons,
    List.drop_zero, hrows, render, String.toList_ofList]
  rfl

/-- A short status stands in a column that is wide for it, so blanks come in front of the sequence
that ends its colour. -/
def reviewed : Table := ⟨["id", "status"], [["cde-1", "low"]]⟩

theorem uncoloured_render_reviewed :
    Lacks escape reviewed ∧ Lacks '\n' reviewed ∧ escape ∈ (reviewed.render none true).toList ∧
      trimRows (uncoloured (reviewed.render none true).toList) =
        (reviewed.render none false).toList := by
  have hescape : Lacks escape reviewed := by unfold Lacks; decide
  have hbreak : Lacks '\n' reviewed := by unfold Lacks; decide
  exact ⟨hescape, hbreak, by decide, uncoloured_render reviewed none hescape hbreak⟩

end DataGovernance.Table
