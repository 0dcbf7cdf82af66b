import DataGovernance.Table.Basic
import Mathlib.Data.List.Forall2
import Mathlib.Logic.Function.Iterate

/-!
# Columns are narrowed evenly

Columns that are too wide for a limit are narrowed by one character at a time, always a widest of
those that may be narrowed. So a column that has lost a character is at most one character narrower
than any that may still lose one: this is what every step keeps. The narrowing ends when the columns
fit or when none may be narrowed, whichever comes first, and takes no character more.

Key definitions: `Column.least`, `Column.Narrowed`, `narrowest`, `GoesOn`.
Key theorems: `narrowed_narrow`, `narrowed_shrink`, `width_shrink`, `width_shrink_le_iff`,
`shrink_evenly`.
-/

namespace DataGovernance.Table

/-! ### One column -/

/-- A column that is one character narrower. -/
def Column.narrowed (c : Column) : Column := { c with width := c.width - 1 }

/-- The width that is left of a column if it gives way as far as it may. -/
def Column.least (c : Column) : Nat := min c.width c.floor

/-- What has become of a column while none that may be narrowed is wider than a bound. -/
structure Column.Narrowed (bound : Nat) (c d : Column) : Prop where
  header_eq : d.header = c.header
  floor_eq : d.floor = c.floor
  least_le : c.least ≤ d.width
  width_le : d.width ≤ c.width
  bound_le : d.width < c.width → bound ≤ d.width + 1

namespace Column

variable {bound bound' : Nat} {c d : Column}

theorem givesWay_iff : c.givesWay = true ↔ c.floor < c.width := decide_eq_true_iff

theorem Narrowed.refl (bound : Nat) (c : Column) : Narrowed bound c c where
  header_eq := rfl
  floor_eq := rfl
  least_le := Nat.min_le_left c.width c.floor
  width_le := Nat.le_refl _
  bound_le h := absurd h (Nat.lt_irrefl _)

theorem Narrowed.mono (h : Narrowed bound c d) (hle : bound' ≤ bound) : Narrowed bound' c d :=
  { h with bound_le := fun hlt => Nat.le_trans hle (h.bound_le hlt) }

/-- A column as wide as the bound may lose a character if it gives way. -/
theorem Narrowed.step (h : Narrowed bound c d) (hd : d.givesWay = true) (hw : d.width = bound) :
    Narrowed bound c d.narrowed := by
  have hfloor : c.floor < d.width := h.floor_eq ▸ givesWay_iff.1 hd
  have hleast : c.least ≤ c.floor := Nat.min_le_right c.width c.floor
  have hle := h.width_le
  have hwidth : d.narrowed.width = d.width - 1 := rfl
  exact
    { header_eq := h.header_eq
      floor_eq := h.floor_eq
      least_le := by omega
      width_le := by omega
      bound_le := fun _ => by omega }

/-- A column that no longer gives way has given way as far as it may. -/
theorem Narrowed.width_eq (h : Narrowed bound c d) (hd : ¬d.givesWay = true) :
    d.width = c.least := by
  have hfloor : ¬c.floor < d.width := h.floor_eq ▸ mt givesWay_iff.2 hd
  have hleast := h.least_le
  have hwidth := h.width_le
  unfold least at *
  omega

end Column

/-! ### One step -/

variable {limit bound n w : Nat} {start cs : List Column}

theorem greatest_le_iff :
    greatest cs ≤ n ↔ ∀ c ∈ cs, c.givesWay = true → c.width ≤ n := by
  induction cs with
  | nil => simp [greatest]
  | cons c cs ih =>
    unfold greatest at ih ⊢
    by_cases hc : c.givesWay = true
    · rw [List.filter_cons_of_pos hc, List.foldr_cons, Nat.max_le, ih, List.forall_mem_cons]
      simp only [hc, true_implies]
    · rw [List.filter_cons_of_neg hc, ih, List.forall_mem_cons]
      exact (and_iff_right fun h => absurd h hc).symm

theorem width_le_greatest {c : Column} (hc : c ∈ cs) (h : c.givesWay = true) :
    c.width ≤ greatest cs :=
  greatest_le_iff.1 (Nat.le_refl _) c hc h

theorem mem_narrowLast {d : Column} : ∀ {cs : List Column}, d ∈ narrowLast w cs →
    d ∈ cs ∨ ∃ c ∈ cs, c.givesWay = true ∧ d = c.narrowed
  | [], h => .inl h
  | c :: cs, h => by
    unfold narrowLast at h
    split at h
    · rcases List.mem_cons.1 h with rfl | h
      · exact .inl (.head _)
      · rcases mem_narrowLast h with h | ⟨e, he, hd⟩
        · exact .inl (.tail _ h)
        · exact .inr ⟨e, .tail _ he, hd⟩
    · split at h
      · rename_i hc
        rcases List.mem_cons.1 h with rfl | h
        · exact .inr ⟨c, .head _, (Bool.and_eq_true_iff.1 hc).1, rfl⟩
        · exact .inl (.tail _ h)
      · exact .inl h

theorem greatest_narrow_le : greatest (narrow cs) ≤ greatest cs := by
  refine greatest_le_iff.2 fun d hd hgives => ?_
  rcases mem_narrowLast hd with hd | ⟨c, hc, hcgives, rfl⟩
  · exact width_le_greatest hd hgives
  · exact Nat.le_trans (Nat.sub_le _ 1) (width_le_greatest hc hcgives)

theorem narrowed_narrowLast (h : List.Forall₂ (Column.Narrowed w) start cs) :
    List.Forall₂ (Column.Narrowed w) start (narrowLast w cs) := by
  induction h with
  | nil => exact .nil
  | cons hcd h ih =>
    unfold narrowLast
    split
    · exact .cons hcd ih
    · split
      · rename_i hd
        rw [Bool.and_eq_true_iff, beq_iff_eq] at hd
        exact .cons (hcd.step hd.1 hd.2) h
      · exact .cons hcd h

/-- A step keeps what has become of the columns, with the bound that then holds. -/
theorem narrowed_narrow (h : List.Forall₂ (Column.Narrowed (greatest cs)) start cs) :
    List.Forall₂ (Column.Narrowed (greatest (narrow cs))) start (narrow cs) :=
  (narrowed_narrowLast h).imp fun _ _ hcd => hcd.mono greatest_narrow_le

theorem width_narrow (h : cs.any Column.givesWay = true) : width (narrow cs) + 1 = width cs := by
  have htotal := total_narrowLast (exists_width_greatest h)
  simp only [width, narrow, length_narrowLast]
  omega

/-! ### All steps -/

/-- The columns are too wide for a limit and some column may be narrowed. -/
def GoesOn (limit : Nat) (cs : List Column) : Prop :=
  limit < width cs ∧ cs.any Column.givesWay = true

theorem shrink_of_goesOn (h : GoesOn limit cs) : shrink limit cs = shrink limit (narrow cs) := by
  rw [shrink]
  exact if_pos h

theorem shrink_of_not_goesOn (h : ¬GoesOn limit cs) : shrink limit cs = cs := by
  rw [shrink]
  exact if_neg h

theorem not_goesOn_shrink : ¬GoesOn limit (shrink limit cs) := by
  induction cs using shrink.induct limit with
  | case1 cs h ih => rwa [shrink_of_goesOn h]
  | case2 cs h => rwa [shrink_of_not_goesOn h]

/-- Narrowing is the repetition of a step as long as the columns are too wide and one of them may be
narrowed. -/
theorem exists_shrink_eq_iterate (limit : Nat) (cs : List Column) :
    ∃ n, shrink limit cs = narrow^[n] cs ∧ ∀ m < n, GoesOn limit (narrow^[m] cs) := by
  induction cs using shrink.induct limit with
  | case1 cs h ih =>
    obtain ⟨n, hn, hbefore⟩ := ih
    refine ⟨n + 1, ?_, fun m hm => ?_⟩
    · rw [shrink_of_goesOn h, hn, Function.iterate_succ_apply]
    · cases m with
      | zero => exact h
      | succ m =>
        rw [Function.iterate_succ_apply]
        exact hbefore m (Nat.lt_of_succ_lt_succ hm)
  | case2 cs h => exact ⟨0, shrink_of_not_goesOn h, fun m hm => absurd hm (Nat.not_lt_zero m)⟩

theorem narrowed_shrink_of_narrowed (h : List.Forall₂ (Column.Narrowed (greatest cs)) start cs) :
    List.Forall₂ (Column.Narrowed (greatest (shrink limit cs))) start (shrink limit cs) := by
  induction cs using shrink.induct limit with
  | case1 cs hon ih =>
    rw [shrink_of_goesOn hon]
    exact ih (narrowed_narrow h)
  | case2 cs hon => rwa [shrink_of_not_goesOn hon]

theorem map_header_eq (h : List.Forall₂ (Column.Narrowed bound) start cs) :
    cs.map Column.header = start.map Column.header := by
  induction h with
  | nil => rfl
  | cons hcd _ ih => rw [List.map_cons, List.map_cons, hcd.header_eq, ih]

/-- What has become of columns that have been narrowed to a limit. -/
theorem narrowed_shrink (limit : Nat) (cs : List Column) :
    List.Forall₂ (Column.Narrowed (greatest (shrink limit cs))) cs (shrink limit cs) :=
  narrowed_shrink_of_narrowed (List.forall₂_same.2 fun c _ => .refl _ c)

theorem length_shrink : (shrink limit cs).length = cs.length :=
  (narrowed_shrink limit cs).length_eq.symm

theorem exists_of_mem_shrink {d : Column} (hd : d ∈ shrink limit cs) :
    ∃ c ∈ cs, Column.Narrowed (greatest (shrink limit cs)) c d := by
  obtain ⟨hlength, hget⟩ := List.forall₂_iff_get.1 (narrowed_shrink limit cs)
  obtain ⟨j, hj, rfl⟩ := List.getElem_of_mem hd
  exact ⟨cs[j], List.getElem_mem (hlength ▸ hj), hget j (hlength ▸ hj) hj⟩

/-- No character is taken that need not be. -/
theorem le_width_shrink (h : limit ≤ width cs) : limit ≤ width (shrink limit cs) := by
  induction cs using shrink.induct limit with
  | case1 cs hon ih =>
    have hstep := width_narrow hon.2
    rw [shrink_of_goesOn hon]
    exact ih (by have := hon.1; omega)
  | case2 cs hon => rwa [shrink_of_not_goesOn hon]

/-! ### The width that is left -/

/-- The width of columns side by side that have given way as far as they may. -/
def narrowest (cs : List Column) : Nat :=
  total (cs.map Column.least) + gap.length * (cs.length - 1)

theorem total_least_le (h : List.Forall₂ (Column.Narrowed bound) start cs) :
    total (start.map Column.least) ≤ total (cs.map Column.width) := by
  induction h with
  | nil => exact Nat.le_refl _
  | cons hcd _ ih =>
    simp only [List.map_cons, total_cons]
    exact Nat.add_le_add hcd.least_le ih

theorem map_width_eq (h : List.Forall₂ (Column.Narrowed bound) start cs)
    (hnone : ¬cs.any Column.givesWay = true) : cs.map Column.width = start.map Column.least := by
  induction h with
  | nil => rfl
  | cons hcd _ ih =>
    simp only [List.any_cons, Bool.or_eq_true, not_or] at hnone
    rw [List.map_cons, List.map_cons, hcd.width_eq hnone.1, ih hnone.2]

theorem narrowest_le_width_shrink : narrowest cs ≤ width (shrink limit cs) := by
  have hleast := total_least_le (narrowed_shrink limit cs)
  rw [narrowest, width, length_shrink]
  omega

/-- Columns that are too wide are narrowed to the limit, or as far as they may be. -/
theorem width_shrink (h : limit < width cs) :
    width (shrink limit cs) = max limit (narrowest cs) := by
  have hlimit : limit ≤ width (shrink limit cs) := le_width_shrink (Nat.le_of_lt h)
  have hnarrowest : narrowest cs ≤ width (shrink limit cs) := narrowest_le_width_shrink
  by_cases hfits : limit < width (shrink limit cs)
  · have hnone : ¬(shrink limit cs).any Column.givesWay = true :=
      fun hany => not_goesOn_shrink ⟨hfits, hany⟩
    have hleft : width (shrink limit cs) = narrowest cs := by
      rw [width, narrowest, map_width_eq (narrowed_shrink limit cs) hnone, length_shrink]
    omega
  · omega

/-- Columns come to fit a limit exactly when they fit it after giving way as far as they may. -/
theorem width_shrink_le_iff : width (shrink limit cs) ≤ limit ↔ narrowest cs ≤ limit := by
  constructor
  · exact fun h => Nat.le_trans narrowest_le_width_shrink h
  · intro h
    by_cases hwide : limit < width cs
    · rw [width_shrink hwide]
      omega
    · rw [shrink_of_not_goesOn fun hon => hwide hon.1]
      exact Nat.not_lt.1 hwide

/-! ### The columns of a table -/

theorem map_floor_columns (t : Table) :
    t.columns.map Column.floor = t.headers.map fun h => max h.utf8ByteSize leastWidth := by
  refine List.ext_getElem (by simp [columns]) fun j _ _ => ?_
  simp [columns, Column.ofCells]

/-- **Columns are narrowed evenly, and no further than they need to be.** The narrowing of the
columns of a table to a limit comes to an end after a number of steps, before each of which they are
too wide and one of them may be narrowed. Columns that fit stay as they are; others come to fit
exactly, or are left at the greater width that they have when every one of them has given way as far
as it may. No column becomes wider, or narrower than the bytes of its header and six characters
demand, and one that has lost a character is at most one character narrower than any that may still
lose one. -/
theorem shrink_evenly (t : Table) (limit : Nat) :
    (∃ n, shrink limit t.columns = narrow^[n] t.columns ∧
      (∀ m < n, GoesOn limit (narrow^[m] t.columns)) ∧ ¬GoesOn limit (narrow^[n] t.columns)) ∧
    (width t.columns ≤ limit → shrink limit t.columns = t.columns) ∧
    (limit < width t.columns →
      width (shrink limit t.columns) = max limit (narrowest t.columns)) ∧
    (shrink limit t.columns).length = t.columns.length ∧
    t.columns.map Column.floor = t.headers.map (fun h => max h.utf8ByteSize 6) ∧
    (∀ c d, (c, d) ∈ t.columns.zip (shrink limit t.columns) →
      d.header = c.header ∧ min c.width c.floor ≤ d.width ∧ d.width ≤ c.width) ∧
    (∀ c d c' d', (c, d) ∈ t.columns.zip (shrink limit t.columns) →
      (c', d') ∈ t.columns.zip (shrink limit t.columns) →
      d.width < c.width → c'.floor < d'.width → d'.width ≤ d.width + 1) := by
  have hall := narrowed_shrink limit t.columns
  have hof : ∀ {c d}, (c, d) ∈ t.columns.zip (shrink limit t.columns) →
      Column.Narrowed (greatest (shrink limit t.columns)) c d := (List.forall₂_iff_zip.1 hall).2
  obtain ⟨n, hn, hbefore⟩ := exists_shrink_eq_iterate limit t.columns
  refine ⟨⟨n, hn, hbefore, hn ▸ not_goesOn_shrink⟩, fun hfits => ?_, width_shrink, length_shrink,
    map_floor_columns t, fun c d hcd => ?_, fun c d c' d' hcd hcd' hlost hmay => ?_⟩
  · exact shrink_of_not_goesOn fun hon => Nat.not_le.2 hon.1 hfits
  · exact ⟨(hof hcd).header_eq, (hof hcd).least_le, (hof hcd).width_le⟩
  · -- the column that may still lose a character is one over which the greatest width is taken
    have hgives : d'.givesWay = true :=
      Column.givesWay_iff.2 (Nat.lt_of_le_of_lt (Nat.le_of_eq (hof hcd').floor_eq) hmay)
    have hmem : d' ∈ shrink limit t.columns := (List.of_mem_zip hcd').2
    exact Nat.le_trans (width_le_greatest hmem hgives) ((hof hcd).bound_le hlost)

end DataGovernance.Table
