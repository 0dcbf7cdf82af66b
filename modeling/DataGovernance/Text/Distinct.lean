/-!
# Distinct texts

Ids have to differ, and lists of ids are shown without repetition in code point order.

Key definitions: `firstRepeated?`, `sorted`, `sortedSet`.
Key theorems: `firstRepeated?_eq_none_iff`, `mem_sortedSet`.
-/

namespace DataGovernance.Text

/-- The first text that occurred before, be it in `seen` or in the list. -/
def firstRepeated? (seen : List String) : List String → Option String
  | [] => none
  | s :: rest => if s ∈ seen then some s else firstRepeated? (s :: seen) rest

/-- Texts in code point order. -/
def sorted (ss : List String) : List String := ss.mergeSort fun a b => decide (a ≤ b)

/-- The different texts of a list in code point order. -/
def sortedSet (ss : List String) : List String := sorted ss.eraseDups

theorem firstRepeated?_eq_none_iff_of_seen {seen ss : List String} :
    firstRepeated? seen ss = none ↔ ss.Nodup ∧ ∀ s ∈ ss, s ∉ seen := by
  induction ss generalizing seen with
  | nil => simp [firstRepeated?]
  | cons s rest ih =>
    unfold firstRepeated?
    split
    · simp_all
    · rename_i hs
      rw [ih]
      simp only [List.nodup_cons, List.mem_cons, not_or]
      constructor
      · rintro ⟨hn, hr⟩
        refine ⟨⟨fun h => (hr s h).1 rfl, hn⟩, ?_⟩
        rintro t (rfl | ht)
        · exact hs
        · exact (hr t ht).2
      · rintro ⟨⟨hm, hn⟩, hr⟩
        exact ⟨hn, fun t ht => ⟨fun h => hm (h ▸ ht), hr t (.inr ht)⟩⟩

theorem firstRepeated?_eq_none_iff {ss : List String} :
    firstRepeated? [] ss = none ↔ ss.Nodup := by
  simp [firstRepeated?_eq_none_iff_of_seen]

theorem mem_sorted {s : String} {ss : List String} : s ∈ sorted ss ↔ s ∈ ss :=
  List.mem_mergeSort

theorem mem_sortedSet {s : String} {ss : List String} : s ∈ sortedSet ss ↔ s ∈ ss := by
  simp [sortedSet, mem_sorted]

end DataGovernance.Text
