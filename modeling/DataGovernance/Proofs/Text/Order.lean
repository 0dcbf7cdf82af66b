import DataGovernance.Text.Distinct

/-!
# Texts in code point order, and what they name

Different texts in code point order ascend, and a list of ascending texts is told by which texts are
in it. In a list of named values with different names a name leads to the one value that stands
beside it, wherever that is in the list.

Key theorems: `Text.pairwise_lt_sorted`, `Text.eq_of_pairwise_lt`, `lookup_eq_some_iff_mem`,
`entries_eq_of_pairwise_lt`, `lookup_perm`.
-/

namespace DataGovernance

namespace Text

theorem sorted_perm (ss : List String) : (sorted ss).Perm ss := List.mergeSort_perm ss _

/-- Different texts in code point order ascend. -/
theorem pairwise_lt_sorted {ss : List String} (h : ss.Nodup) : (sorted ss).Pairwise (· < ·) := by
  have hle : (sorted ss).Pairwise fun a b => decide (a ≤ b) = true := by
    refine List.pairwise_mergeSort (fun a b c hab hbc => ?_) (fun a b => ?_) ss
    · exact decide_eq_true (String.le_trans (of_decide_eq_true hab) (of_decide_eq_true hbc))
    · simpa using String.le_total a b
  have hnodup : (sorted ss).Nodup := (sorted_perm ss).nodup_iff.2 h
  refine (hle.and hnodup).imp fun {a b} hab => ?_
  exact String.not_le.1 fun hba => hab.2 (String.le_antisymm (of_decide_eq_true hab.1) hba)

/-- Ascending texts differ. -/
theorem nodup_of_pairwise_lt {ss : List String} (h : ss.Pairwise (· < ·)) : ss.Nodup :=
  h.imp fun hlt => String.ne_of_lt hlt

/-- Texts that ascend are told by which they are. -/
theorem eq_of_pairwise_lt {ss ts : List String} (hs : ss.Pairwise (· < ·))
    (ht : ts.Pairwise (· < ·)) (h : ∀ s, s ∈ ss ↔ s ∈ ts) : ss = ts := by
  have hperm : ss.Perm ts :=
    (List.perm_ext_iff_of_nodup (nodup_of_pairwise_lt hs) (nodup_of_pairwise_lt ht)).2 h
  exact hperm.eq_of_pairwise (fun s t _ _ hst hts => absurd hts (String.lt_asymm hst)) hs ht

end Text

/-! ### Named values -/

variable {α β : Type} {name : String} {a : α} {es es' : List (String × α)}

theorem lookup_cons_eq_ite (name : String) (a : α) (es : List (String × α)) (n : String) :
    ((name, a) :: es).lookup n = if n = name then some a else es.lookup n := by
  rw [List.lookup_cons]
  by_cases h : n = name
  · rw [if_pos h, beq_iff_eq.2 h]
  · rw [if_neg h, beq_false_of_ne h]

theorem lookup_eq_none_iff_notMem : es.lookup name = none ↔ name ∉ es.map Prod.fst := by
  rw [List.lookup_eq_none_iff, List.mem_map]
  constructor
  · rintro h ⟨e, he, rfl⟩
    simpa using h e he
  · intro h e he
    exact bne_iff_ne.2 fun heq => h ⟨e, he, heq.symm⟩

theorem mem_of_lookup_eq_some (h : es.lookup name = some a) : (name, a) ∈ es := by
  obtain ⟨front, back, rfl, _⟩ := List.lookup_eq_some_iff.1 h
  exact List.mem_append_right front (.head _)

/-- With different names each name has the value that it stands beside. -/
theorem lookup_eq_some_iff_mem (h : (es.map Prod.fst).Nodup) :
    es.lookup name = some a ↔ (name, a) ∈ es := by
  refine ⟨mem_of_lookup_eq_some, fun hmem => ?_⟩
  obtain ⟨front, back, rfl⟩ := List.append_of_mem hmem
  rw [List.map_append, List.nodup_append] at h
  refine List.lookup_eq_some_iff.2 ⟨front, back, rfl, fun e he => ?_⟩
  have hne : e.1 ≠ name := h.2.2 _ (List.mem_map_of_mem he) _ (.head _)
  simpa using hne.symm

/-- The order of the names does not matter. -/
theorem lookup_perm (hperm : es'.Perm es) (h : (es.map Prod.fst).Nodup) (name : String) :
    es'.lookup name = es.lookup name := by
  have h' : (es'.map Prod.fst).Nodup := (hperm.map _).nodup_iff.2 h
  refine Option.ext fun a => ?_
  rw [lookup_eq_some_iff_mem h', lookup_eq_some_iff_mem h, hperm.mem_iff]

theorem lookup_map_snd (f : α → β) (es : List (String × α)) (name : String) :
    (es.map fun e => (e.1, f e.2)).lookup name = (es.lookup name).map f := by
  induction es with
  | nil => rfl
  | cons e es ih =>
    rw [List.map_cons, List.lookup_cons, List.lookup_cons, ih]
    split <;> rfl

end DataGovernance
