import DataGovernance.Change.Node
import Mathlib.Data.List.DropRight
import Mathlib.Data.List.TakeWhile

/-!
# Clean texts

Trimming leaves a text that neither begins nor ends with a blank; it leaves nothing of a text that
is blank and something that is not blank of any other. The terms that a node is linked to are what
trimming leaves of the given ones, each once and in the order in which they first occur.

Key definitions: `Text.IsTrimmed`, `Text.IsClean`, `Text.ListsOnce`.
Key theorems: `Text.trimmed_eq_empty_iff`, `Text.isClean_trimmed`, `Text.listsOnce_eraseDups`,
`listsOnce_cleanTerms`.
-/

namespace DataGovernance

namespace Text

/-! ### Trimming -/

/-- A text neither begins nor ends with a blank. -/
structure IsTrimmed (s : String) : Prop where
  head : ∀ c ∈ s.toList.head?, isBlankChar c = false
  last : ∀ c ∈ s.toList.getLast?, isBlankChar c = false

/-- A text is trimmed and not blank. -/
structure IsClean (s : String) : Prop where
  notBlank : isBlank s = false
  isTrimmed : IsTrimmed s

theorem trim_eq_nil_iff {cs : List Char} : trim cs = [] ↔ ∀ c ∈ cs, isBlankChar c = true := by
  unfold trim trimEnd trimStart
  rw [List.reverse_eq_nil_iff, List.dropWhile_eq_nil_iff]
  simp only [List.mem_reverse]
  constructor
  · intro h
    by_contra hne
    have hrest : cs.dropWhile isBlankChar ≠ [] := mt List.dropWhile_eq_nil_iff.1 hne
    -- what is left after the blanks in front begins with a character that is not blank
    have hhead := List.head_dropWhile_not isBlankChar hrest
    rw [h _ (List.head_mem hrest)] at hhead
    cases hhead
  · exact fun h c hc => h c ((List.dropWhile_sublist _).subset hc)

/-- Nothing is left of a text after trimming exactly when it is blank. -/
theorem trimmed_eq_empty_iff {s : String} : trimmed s = "" ↔ isBlank s = true := by
  rw [trimmed, isBlank, List.all_eq_true, ← trim_eq_nil_iff]
  exact String.ofList_eq_empty_iff

theorem trim_eq (cs : List Char) : trim cs = (trimStart cs).rdropWhile isBlankChar := rfl

/-- What is dropped at the end of a text are blanks. -/
theorem exists_trimEnd_append (cs : List Char) :
    ∃ blanks, (∀ b ∈ blanks, isBlankChar b = true) ∧ trimEnd cs ++ blanks = cs :=
  ⟨cs.rtakeWhile isBlankChar, fun _ hb => List.mem_rtakeWhile_imp hb,
    List.rdropWhile_append_rtakeWhile⟩

/-- Blanks at the end of a text are dropped. -/
theorem trimEnd_append {blanks : List Char} (h : ∀ b ∈ blanks, isBlankChar b = true)
    (cs : List Char) : trimEnd (cs ++ blanks) = trimEnd cs := by
  rw [trimEnd, List.reverse_append, List.dropWhile_append_of_pos, trimEnd]
  exact fun b hb => h b (List.mem_reverse.1 hb)

theorem isTrimmed_trimmed (s : String) : IsTrimmed (trimmed s) := by
  constructor
  · intro c hc
    rw [trimmed, String.toList_ofList, trim_eq] at hc
    -- dropping the blanks at the end keeps what is in front
    obtain ⟨back, hback⟩ := List.rdropWhile_prefix isBlankChar (trimStart s.toList)
    have hhead : c ∈ (trimStart s.toList).head? := by
      rw [← hback, List.head?_append, Option.mem_def.1 hc]
      rfl
    have hdrop := List.head?_dropWhile_not isBlankChar s.toList
    rw [← trimStart, Option.mem_def.1 hhead] at hdrop
    exact hdrop
  · intro c hc
    rw [trimmed, String.toList_ofList, trim_eq] at hc
    obtain ⟨hne, rfl⟩ := List.mem_getLast?_eq_getLast hc
    have hlast := List.rdropWhile_last_not isBlankChar (trimStart s.toList) hne
    simpa using hlast

/-- A trimmed text is blank only if it is empty. -/
theorem IsTrimmed.isBlank_iff {s : String} (h : IsTrimmed s) : isBlank s = true ↔ s = "" := by
  constructor
  · intro hblank
    rw [isBlank, List.all_eq_true] at hblank
    cases hs : s.toList with
    | nil => exact String.toList_eq_nil_iff.1 hs
    | cons c cs =>
      have hhead := h.head c (by simp [hs])
      rw [hblank c (by simp [hs])] at hhead
      cases hhead
  · rintro rfl
    rfl

/-- Trimming makes a text clean that is not blank. -/
theorem isClean_trimmed {s : String} (h : isBlank s = false) : IsClean (trimmed s) where
  notBlank := by
    rw [Bool.eq_false_iff, Ne, (isTrimmed_trimmed s).isBlank_iff, trimmed_eq_empty_iff, h]
    simp
  isTrimmed := isTrimmed_trimmed s

/-! ### First occurrences -/

/-- A list has each text that satisfies a condition once, in the order in which they first occur. -/
structure ListsOnce (keep : String → Prop) (texts listed : List String) : Prop where
  mem_iff : ∀ s, s ∈ listed ↔ s ∈ texts ∧ keep s
  inOrder : listed.Pairwise fun s t => texts.idxOf s < texts.idxOf t

theorem ListsOnce.nodup {keep : String → Prop} {texts listed : List String}
    (h : ListsOnce keep texts listed) : listed.Nodup :=
  h.inOrder.imp fun hlt he => Nat.ne_of_lt hlt (congrArg texts.idxOf he)

/-- What occurs earlier in what a filter lets through occurs earlier. -/
theorem idxOf_lt_of_filter {p : String → Bool} {s t : String} (hs : p s = true) (ht : p t = true) :
    ∀ {texts : List String}, (texts.filter p).idxOf s < (texts.filter p).idxOf t →
      texts.idxOf s < texts.idxOf t
  | [], h => absurd h (Nat.lt_irrefl 0)
  | u :: texts, h => by
    by_cases hus : u = s
    · subst hus
      have hut : u ≠ t := fun he => absurd h (he ▸ Nat.lt_irrefl _)
      rw [List.idxOf_cons_self, List.idxOf_cons_ne _ hut]
      exact Nat.succ_pos _
    · by_cases hut : u = t
      · subst hut
        rw [List.filter_cons_of_pos ht, List.idxOf_cons_self] at h
        exact absurd h (Nat.not_lt_zero _)
      · have hlater : texts.idxOf s < texts.idxOf t := by
          refine idxOf_lt_of_filter hs ht ?_
          by_cases hu : p u = true
          · rw [List.filter_cons_of_pos hu, List.idxOf_cons_ne _ hus, List.idxOf_cons_ne _ hut] at h
            exact Nat.lt_of_succ_lt_succ h
          · rwa [List.filter_cons_of_neg hu] at h
        rw [List.idxOf_cons_ne _ hus, List.idxOf_cons_ne _ hut]
        exact Nat.succ_lt_succ hlater

/-- Without repetitions, texts stand in the order in which they first occur. -/
theorem pairwise_idxOf_eraseDups : ∀ texts : List String,
    texts.eraseDups.Pairwise fun s t => texts.idxOf s < texts.idxOf t
  | [] => .nil
  | u :: texts => by
    have hne : ∀ {s}, s ∈ (texts.filter fun t => !t == u).eraseDups → u ≠ s := by
      intro s hs he
      simp [he] at hs
    rw [List.eraseDups_cons, List.pairwise_cons]
    constructor
    · intro s hs
      rw [List.idxOf_cons_self, List.idxOf_cons_ne _ (hne hs)]
      exact Nat.succ_pos _
    · refine (pairwise_idxOf_eraseDups (texts.filter fun t => !t == u)).imp_of_mem ?_
      intro s t hs ht hlt
      rw [List.idxOf_cons_ne _ (hne hs), List.idxOf_cons_ne _ (hne ht)]
      refine Nat.succ_lt_succ (idxOf_lt_of_filter ?_ ?_ hlt)
      · simpa using (hne hs).symm
      · simpa using (hne ht).symm
termination_by texts => texts.length
decreasing_by exact Nat.lt_succ_of_le (List.length_filter_le _ _)

/-- What a filter lets through, without repetitions, is what satisfies the filter, each once. -/
theorem listsOnce_eraseDups {keep : String → Prop} {p : String → Bool} {texts : List String}
    (h : ∀ s ∈ texts, p s = true ↔ keep s) :
    ListsOnce keep texts (texts.filter p).eraseDups where
  mem_iff s := by
    rw [List.mem_eraseDups, List.mem_filter]
    exact and_congr_right (h s)
  inOrder := by
    refine (pairwise_idxOf_eraseDups (texts.filter p)).imp_of_mem ?_
    intro s t hs ht hlt
    rw [List.mem_eraseDups, List.mem_filter] at hs ht
    exact idxOf_lt_of_filter hs.2 ht.2 hlt

end Text

/-- The terms that a node is linked to are what trimming leaves of the given ones. -/
theorem listsOnce_cleanTerms (terms : List String) :
    Text.ListsOnce (fun t => Text.isBlank t = false) (terms.map Text.trimmed)
      (cleanTerms terms) := by
  refine Text.listsOnce_eraseDups fun s hs => ?_
  obtain ⟨t, -, rfl⟩ := List.mem_map.1 hs
  rw [decide_eq_true_eq, Ne, ← (Text.isTrimmed_trimmed t).isBlank_iff, Bool.not_eq_true]

/-- All terms that a node is linked to are clean. -/
theorem isClean_of_mem_cleanTerms {t : String} {terms : List String} (h : t ∈ cleanTerms terms) :
    Text.IsClean t := by
  obtain ⟨hmem, hblank⟩ := (listsOnce_cleanTerms terms).mem_iff t |>.1 h
  obtain ⟨s, -, rfl⟩ := List.mem_map.1 hmem
  exact ⟨hblank, Text.isTrimmed_trimmed s⟩

end DataGovernance
