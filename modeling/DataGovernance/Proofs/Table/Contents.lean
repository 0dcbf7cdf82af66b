import DataGovernance.Proofs.Json.Path
import DataGovernance.Proofs.Text.Clean

/-!
# What the table of a value shows

The table of an object has a row for each leaf of it, in the order of the paths of keys. Where keys
are not empty and have no point in them, the keys can be read back from the text of a path, so no
two rows are about the same one. The table of a list of records has a row for each record and a
column for each key in any of them: first those of the first record in the order of the keys, then
those of the second one that are new, and so on.

Key definitions: `Separable`, `firstRecord`.
Key theorems: `flatten_eq`, `pathText_inj`, `pairwise_columnKeys`, `ofValue?_tabulates`.
-/

namespace DataGovernance.Table

open Json Json.Value

variable {members : List (String × Value)} {records : List (List (String × Value))}
  {path : List String} {key : String} {a b : String}

/-! ### Objects -/

/-- Each leaf has a row, whose path is made longer by one key after the other. -/
theorem flatten_eq (start : String) (members : List (String × Value)) :
    flatten start members =
      (leaves members).map fun leaf => (leaf.1.foldl extendPath start, cell leaf.2) := by
  fun_induction flatten start members with
  | case1 start => rw [leaves, List.map_nil]
  | case2 start key inner rest ihInner ihRest =>
    rw [ihInner, ihRest, leaves, List.map_append, List.map_map]
    rfl
  | case3 start key v rest hobject ih =>
    rw [ih, leaves]
    · rfl
    · exact hobject

/-- The keys of an object that can be told apart in the text of a path. -/
structure Separable (keys : List String) : Prop where
  nodup : keys.Nodup
  ne_empty : ∀ key ∈ keys, key ≠ ""
  no_point : ∀ key ∈ keys, '.' ∉ key.toList

/-- The text of a path. -/
def pathText (path : List String) : String := String.intercalate "." path

theorem pathText_ne_empty (hpath : path ≠ []) (h : ∀ key ∈ path, key ≠ "") :
    pathText path ≠ "" := by
  obtain ⟨key, rest, rfl⟩ := List.exists_cons_of_ne_nil hpath
  have hkey : key ≠ "" := h key (.head _)
  cases rest with
  | nil => rwa [pathText, String.intercalate_singleton]
  | cons next rest => simp [pathText, hkey]

theorem foldl_extendPath (h : ∀ key ∈ path, key ≠ "") :
    path.foldl extendPath "" = pathText path := by
  induction path using List.reverseRecOn with
  | nil => rfl
  | append_singleton path key ih =>
    have hpath : ∀ key ∈ path, key ≠ "" := fun k hk => h k (List.mem_append_left _ hk)
    rw [List.foldl_append, ih hpath, List.foldl_cons, List.foldl_nil, extendPath]
    rcases List.eq_nil_or_concat path with rfl | ⟨front, last, hlast⟩
    · rfl
    · have hne : path ≠ [] := by simp [hlast]
      rw [if_neg (pathText_ne_empty hne hpath), pathText, pathText,
        String.intercalate_append_of_ne_nil hne (List.cons_ne_nil _ _),
        String.intercalate_singleton]

/-- A path can be read back from its text. -/
theorem splitOn_pathText (hpath : path ≠ []) (h : ∀ key ∈ path, '.' ∉ key.toList) :
    (pathText path).toList.splitOn '.' = path.map String.toList := by
  rw [pathText, String.toList_intercalate]
  refine List.splitOn_intercalate '.' ?_ (by simpa using hpath)
  simpa using h

theorem pathText_inj {other : List String} (hpath : path ≠ []) (hother : other ≠ [])
    (h : ∀ key ∈ path, '.' ∉ key.toList) (ho : ∀ key ∈ other, '.' ∉ key.toList)
    (heq : pathText path = pathText other) : path = other := by
  have hkeys : path.map String.toList = other.map String.toList := by
    rw [← splitOn_pathText hpath h, ← splitOn_pathText hother ho, heq]
  exact List.map_injective_iff.2 (fun _ _ => String.toList_inj.1) hkeys

/-- The rows for an object in terms of the leaves in order. -/
theorem flatten_orderedLeaves (h : Throughout Separable members) :
    flatten "" (sortedMembers members) =
      (orderedLeaves members).map fun leaf => (pathText leaf.1, cell leaf.2.sortKeys) := by
  have hdiffer : Throughout List.Nodup members := h.mono fun _ hkeys => hkeys.nodup
  rw [flatten_eq, leaves_sortedMembers hdiffer, List.map_map]
  refine List.map_congr_left fun leaf hleaf => ?_
  have hkeys := forall_mem_orderedLeaves hdiffer (h.mono fun _ hkeys => hkeys.ne_empty) leaf hleaf
  rw [Function.comp_apply, foldl_extendPath hkeys.2]

/-- No two leaves have paths of the same text. -/
theorem nodup_pathText (h : Throughout Separable members) :
    ((orderedLeaves members).map fun leaf => pathText leaf.1).Nodup := by
  have hdiffer : Throughout List.Nodup members := h.mono fun _ hkeys => hkeys.nodup
  have hkeys := forall_mem_orderedLeaves hdiffer (h.mono fun _ hkeys => hkeys.no_point)
  refine List.pairwise_map.2 ?_
  refine (List.pairwise_map.1 (pairwise_orderedLeaves hdiffer)).imp_of_mem ?_
  intro x y hx hy hlt heq
  obtain ⟨hxne, hxkeys⟩ := hkeys x hx
  obtain ⟨hyne, hykeys⟩ := hkeys y hy
  exact absurd hlt (pathText_inj hxne hyne hxkeys hykeys heq ▸ List.lt_irrefl _)

/-! ### Records -/

/-- The place of the first record that has a key. -/
def firstRecord (records : List (List (String × Value))) (key : String) : Nat :=
  records.findIdx fun members => decide (key ∈ members.map Prod.fst)

theorem firstRecord_cons (members : List (String × Value)) :
    firstRecord (members :: records) key =
      if key ∈ members.map Prod.fst then 0 else firstRecord records key + 1 := by
  rw [firstRecord, List.findIdx_cons]
  split <;> simp_all [firstRecord]

theorem firstRecord_sortedMembers (records : List (List (String × Value))) (key : String) :
    firstRecord (records.map sortedMembers) key = firstRecord records key := by
  induction records with
  | nil => rfl
  | cons members records ih =>
    rw [List.map_cons, firstRecord_cons, firstRecord_cons, ih]
    simp only [map_fst_sortedMembers, Text.mem_sorted]

theorem mem_columnKeys :
    key ∈ columnKeys records ↔ ∃ members ∈ records, key ∈ members.map Prod.fst := by
  rw [columnKeys, List.mem_eraseDups, List.mem_flatMap]

theorem mem_columnKeys_sortedMembers :
    key ∈ columnKeys (records.map sortedMembers) ↔
      ∃ members ∈ records, key ∈ members.map Prod.fst := by
  have hkeys : ∀ members, key ∈ (sortedMembers members).map Prod.fst ↔
      key ∈ members.map Prod.fst := by
    intro members
    rw [map_fst_sortedMembers, Text.mem_sorted]
  rw [mem_columnKeys]
  constructor
  · rintro ⟨_, hsorted, hkey⟩
    obtain ⟨members, hmem, rfl⟩ := List.mem_map.1 hsorted
    exact ⟨members, hmem, (hkeys members).1 hkey⟩
  · rintro ⟨members, hmem, hkey⟩
    exact ⟨_, List.mem_map_of_mem hmem, (hkeys members).2 hkey⟩

/-- Of ascending texts the ones in front are less. -/
theorem lt_of_idxOf_lt {ss : List String} (h : ss.Pairwise (· < ·)) (ha : a ∈ ss) (hb : b ∈ ss)
    (hlt : ss.idxOf a < ss.idxOf b) : a < b := by
  have hget := List.pairwise_iff_getElem.1 h _ _ (List.idxOf_lt_length_of_mem ha)
    (List.idxOf_lt_length_of_mem hb) hlt
  rwa [List.getElem_idxOf, List.getElem_idxOf] at hget

/-- What occurs earlier in the keys of all records occurs in an earlier record, or earlier in the
same one. -/
theorem firstRecord_of_idxOf_lt
    (h : ∀ members ∈ records, (members.map Prod.fst).Pairwise (· < ·))
    (ha : ∃ members ∈ records, a ∈ members.map Prod.fst)
    (hb : ∃ members ∈ records, b ∈ members.map Prod.fst)
    (hlt : (records.flatMap fun members => members.map Prod.fst).idxOf a <
      (records.flatMap fun members => members.map Prod.fst).idxOf b) :
    firstRecord records a < firstRecord records b ∨
      firstRecord records a = firstRecord records b ∧ a < b := by
  induction records with
  | nil => simp at ha
  | cons members records ih =>
    rw [List.flatMap_cons, List.idxOf_append, List.idxOf_append] at hlt
    rw [firstRecord_cons, firstRecord_cons]
    obtain ⟨hmembers, hrecords⟩ := List.forall_mem_cons.1 h
    rw [List.exists_mem_cons_iff] at ha hb
    by_cases hma : a ∈ members.map Prod.fst
    · rw [if_pos hma] at hlt ⊢
      by_cases hmb : b ∈ members.map Prod.fst
      · rw [if_pos hmb] at hlt ⊢
        exact .inr ⟨rfl, lt_of_idxOf_lt hmembers hma hmb hlt⟩
      · rw [if_neg hmb]
        exact .inl (Nat.succ_pos _)
    · rw [if_neg hma] at hlt ⊢
      by_cases hmb : b ∈ members.map Prod.fst
      · rw [if_pos hmb] at hlt
        have := List.idxOf_lt_length_of_mem hmb
        omega
      · rw [if_neg hmb] at hlt ⊢
        have hearlier := ih hrecords (ha.resolve_left hma) (hb.resolve_left hmb) (by omega)
        exact hearlier.imp Nat.succ_lt_succ (And.imp_left (congrArg Nat.succ))

theorem nodup_columnKeys (records : List (List (String × Value))) :
    (columnKeys records).Nodup := by
  refine (Text.pairwise_idxOf_eraseDups _).imp fun {a b} hlt => ?_
  rintro rfl
  exact Nat.lt_irrefl _ hlt

/-- The columns come in the order of the first records that have their keys, and of the keys. -/
theorem pairwise_columnKeys (h : ∀ members ∈ records, (members.map Prod.fst).Pairwise (· < ·)) :
    (columnKeys records).Pairwise fun a b =>
      firstRecord records a < firstRecord records b ∨
        firstRecord records a = firstRecord records b ∧ a < b := by
  refine (Text.pairwise_idxOf_eraseDups _).imp_of_mem fun {a b} ha hb hlt => ?_
  exact firstRecord_of_idxOf_lt h (mem_columnKeys.1 ha) (mem_columnKeys.1 hb) hlt

theorem mapM_members? (records : List (List (String × Value))) :
    (records.map Value.object).mapM Value.members? = some records := by
  induction records with
  | nil => rfl
  | cons members records ih => simp [members?, ih]

theorem recordCell_sortedMembers (h : (members.map Prod.fst).Nodup) (key : String) :
    recordCell (sortedMembers members) key =
      ((members.lookup key).map fun v => cell v.sortKeys).getD noCell := by
  rw [recordCell, lookup_sortedMembers h]
  cases members.lookup key <;> rfl

/-! ### The tables of values -/

theorem sortKeys_records (records : List (List (String × Value))) :
    (Value.list (records.map .object)).sortKeys =
      .list ((records.map sortedMembers).map .object) := by
  rw [sortKeys, sortKeysItems_eq_map, List.map_map, List.map_map]
  exact congrArg Value.list (List.map_congr_left fun _ _ => sortKeys_object)

theorem ofValue?_records (h : records ≠ []) :
    ofValue? (.list (records.map .object)) = some (ofRecords records) := by
  obtain ⟨members, rest, rfl⟩ := List.exists_cons_of_ne_nil h
  rw [List.map_cons, ofValue?, ← List.map_cons, mapM_members?]
  exact List.cons_ne_nil _ _

/-- **What the table of a value shows.** The rows for an object whose keys are separable at every
level correspond one to one to its leaves, in the order of their paths, which is that of keys, depth
first: a row holds the text of a leaf's path and its cell, and no two rows hold the same path. For
records there is a row for each record and a column for each key that occurs, once each and in the
order in which they first occur, record by record and by key within a record; an entry is the cell
of the record's value for the key, or stands for none. -/
theorem ofValue?_tabulates :
    (∀ members, Throughout Separable members →
      ∃ leaves : List (List String × Value),
        (leaves.map Prod.fst).Pairwise (· < ·) ∧
        (∀ path v, (path, v) ∈ leaves ↔
          (Value.object members).get? path = some v ∧ v.members? = none) ∧
        ofValue? (Value.object members).sortKeys =
          some ⟨["field", "value"],
            leaves.map fun (path, v) => [String.intercalate "." path, cell v.sortKeys]⟩ ∧
        (leaves.map fun (path, _) => String.intercalate "." path).Nodup) ∧
    (∀ records : List (List (String × Value)), records ≠ [] →
      (∀ members ∈ records, (members.map Prod.fst).Nodup) →
      ∃ keys : List String,
        keys.Nodup ∧
        (∀ key, key ∈ keys ↔ ∃ members ∈ records, key ∈ members.map Prod.fst) ∧
        (keys.Pairwise fun a b => firstRecord records a < firstRecord records b ∨
          firstRecord records a = firstRecord records b ∧ a < b) ∧
        ofValue? (Value.list (records.map .object)).sortKeys =
          some ⟨keys, records.map fun members => keys.map fun key =>
            ((members.lookup key).map fun v => cell v.sortKeys).getD "-"⟩) := by
  constructor
  · intro members h
    have hdiffer : Throughout List.Nodup members := h.mono fun _ hkeys => hkeys.nodup
    refine ⟨orderedLeaves members, pairwise_orderedLeaves hdiffer,
      fun _ _ => mem_orderedLeaves_iff hdiffer, ?_, nodup_pathText h⟩
    rw [sortKeys_object, ofValue?, flatten_orderedLeaves h, List.map_map]
    rfl
  · intro records hrecords h
    have hkeys : ∀ members ∈ records.map sortedMembers,
        (members.map Prod.fst).Pairwise (· < ·) := by
      intro members hmembers
      obtain ⟨unsorted, hmem, rfl⟩ := List.mem_map.1 hmembers
      rw [map_fst_sortedMembers]
      exact Text.pairwise_lt_sorted (h unsorted hmem)
    refine ⟨columnKeys (records.map sortedMembers), ?_, ?_, ?_, ?_⟩
    · exact nodup_columnKeys _
    · exact fun key => mem_columnKeys_sortedMembers
    · refine (pairwise_columnKeys hkeys).imp fun hab => ?_
      rwa [firstRecord_sortedMembers, firstRecord_sortedMembers] at hab
    · rw [sortKeys_records, ofValue?_records (by simpa using hrecords), ofRecords, List.map_map]
      refine congrArg (fun rows => some (Table.mk _ rows)) ?_
      refine List.map_congr_left fun members hm => ?_
      exact List.map_congr_left fun key _ => recordCell_sortedMembers (h members hm) key

/-- A number that is not whole is shown with the digits that it needs. -/
example : cell (.real ⟨false, 150, -2⟩) = "1.5" := by
  decide +kernel

/-- An answer with figures in an inner object. -/
def answerMembers : List (String × Value) :=
  [("cycle_id", .str "Q3"), ("cdes", .object [("total", .int 6), ("pending", .int 2)])]

theorem throughout_answerMembers : Throughout Separable answerMembers := by
  refine ⟨⟨by decide, by decide, by decide⟩, fun {key inner} hmem => ?_⟩
  have hinner : key = "cdes" ∧ inner = [("total", .int 6), ("pending", .int 2)] := by
    simpa [answerMembers] using hmem
  obtain ⟨rfl, rfl⟩ := hinner
  exact ⟨⟨by decide, by decide, by decide⟩, fun hmem => by simp at hmem⟩

theorem ofValue?_tabulates_answer :
    Throughout Separable answerMembers ∧
      (∃ rows, ofValue? (Value.object answerMembers).sortKeys = some ⟨["field", "value"], rows⟩ ∧
        ["cdes.pending", "2"] ∈ rows) ∧
      ∃ t, ofValue?
          (Value.list [.object [("gate", .str "ownership")], .object answerMembers]).sortKeys =
            some t ∧
        t.rows.length = 2 ∧ "gate" ∈ t.headers ∧ "cdes" ∈ t.headers ∧ t.headers.Nodup := by
  obtain ⟨hobject, hrecords⟩ := ofValue?_tabulates
  refine ⟨throughout_answerMembers, ?_, ?_⟩
  · obtain ⟨leaves, _, hleaves, htable, _⟩ := hobject answerMembers throughout_answerMembers
    have hleaf : (["cdes", "pending"], Value.int 2) ∈ leaves := (hleaves _ _).2 ⟨rfl, rfl⟩
    exact ⟨_, htable, List.mem_map.2 ⟨_, hleaf, rfl⟩⟩
  · obtain ⟨keys, hnodup, hkeys, _, htable⟩ :=
      hrecords [[("gate", .str "ownership")], answerMembers] (List.cons_ne_nil _ _) (by decide)
    refine ⟨_, htable, rfl, (hkeys _).2 ⟨_, .head _, by decide⟩, ?_, hnodup⟩
    exact (hkeys _).2 ⟨_, .tail _ (.head _), by decide⟩

end DataGovernance.Table
