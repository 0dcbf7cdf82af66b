import DataGovernance.Proofs.Rounding.HalfUp
import DataGovernance.Proofs.Rounding.Words
import DataGovernance.Summary
import Mathlib.Algebra.Order.BigOperators.Group.List
import Mathlib.Tactic.NormNum

/-!
# The mean score is exact

A score has eight bits, so the mean of scores has as many, and for fewer than 2⁵⁰ elements twice
their sum has 64. The mean is the rational one, rounded a half upwards. It lies where the scores lie
and depends on their sum and number alone: neither on their order, nor does it become less when one
of them is raised.

Key definitions: `scores`, `Count.averageScore?`.
Key theorems: `averageScore_eq_roundHalfUp`, `averageScore_le`, `le_averageScore`,
`averageScore_exact`.
-/

namespace DataGovernance

variable {elements : List Element} {k : Nat}

/-- The scores of elements. -/
def scores (elements : List Element) : List Nat := elements.map fun e => e.overallScore.val

/-- The mean score with numbers of 64 bits, if every number on the way has 64 bits. -/
def Count.averageScore? (elements : List Element) : Option Count := do
  let sum ← sum? (scores elements)
  let length ← ofNat? elements.length
  roundHalfUp? sum length

theorem length_scores (elements : List Element) : (scores elements).length = elements.length :=
  List.length_map _

theorem score_le : ∀ n ∈ scores elements, n ≤ 255 := by
  intro n hn
  obtain ⟨e, _, rfl⟩ := List.mem_map.1 hn
  exact Nat.le_of_lt_succ e.overallScore.isLt

/-! ### The sum of the scores -/

theorem sum_scores_le (h : ∀ n ∈ scores elements, n ≤ k) :
    (scores elements).sum ≤ k * elements.length := by
  have hsum := List.sum_le_card_nsmul (scores elements) k h
  rwa [length_scores, nsmul_eq_mul, Nat.cast_id, Nat.mul_comm] at hsum

theorem le_sum_scores (h : ∀ n ∈ scores elements, k ≤ n) :
    k * elements.length ≤ (scores elements).sum := by
  have hsum := List.card_nsmul_le_sum (scores elements) k h
  rwa [length_scores, nsmul_eq_mul, Nat.cast_id, Nat.mul_comm] at hsum

/-! ### The mean -/

/-- The mean score never needs to be cut to 32 bits. -/
theorem averageScore_eq_roundHalfUp (elements : List Element) :
    averageScore elements = roundHalfUp (scores elements).sum elements.length := by
  have hle : roundHalfUp (scores elements).sum elements.length ≤ 255 :=
    roundHalfUp_le (sum_scores_le score_le)
  exact Nat.min_eq_left (Nat.le_trans hle (by decide))

theorem averageScore_le (h : ∀ n ∈ scores elements, n ≤ k) : averageScore elements ≤ k := by
  rw [averageScore_eq_roundHalfUp]
  exact roundHalfUp_le (sum_scores_le h)

theorem le_averageScore (helements : elements ≠ []) (h : ∀ n ∈ scores elements, k ≤ n) :
    k ≤ averageScore elements := by
  rw [averageScore_eq_roundHalfUp]
  exact le_roundHalfUp (List.length_pos_iff.2 helements) (le_sum_scores h)

/-- Of two lists of the same length the one with the greater sum has no lesser mean. -/
theorem averageScore_mono {others : List Element} (hlength : elements.length = others.length)
    (hsum : (scores elements).sum ≤ (scores others).sum) :
    averageScore elements ≤ averageScore others := by
  rw [averageScore_eq_roundHalfUp, averageScore_eq_roundHalfUp, hlength]
  exact roundHalfUp_mono hsum

theorem averageScore_perm {others : List Element} (h : others.Perm elements) :
    averageScore others = averageScore elements := by
  have hsum : (scores others).sum = (scores elements).sum := (h.map _).sum_eq
  exact Nat.le_antisymm (averageScore_mono h.length_eq (Nat.le_of_eq hsum))
    (averageScore_mono h.length_eq.symm (Nat.le_of_eq hsum.symm))

theorem averageScore_le_of_raised {e : Element} {score : Score} (h : e.overallScore ≤ score)
    (front back : List Element) :
    averageScore (front ++ e :: back) ≤
      averageScore (front ++ { e with overallScore := score } :: back) := by
  have hscore : e.overallScore.val ≤ score.val := h
  refine averageScore_mono (by simp) ?_
  simp only [scores, List.map_append, List.map_cons, List.sum_append, List.sum_cons]
  omega

/-- With 64 bits the mean score of a list that is not too long is the exact one. -/
theorem Count.averageScore?_eq_ofNat? (h : elements.length < 2 ^ 50) :
    averageScore? elements = ofNat? (averageScore elements) := by
  have htotal : (scores elements).sum ≤ 255 * elements.length := sum_scores_le score_le
  have hroom : 511 * 2 ^ 50 ≤ wordSize := by decide
  have hsum : (scores elements).sum < wordSize := by omega
  have hlength : elements.length < wordSize := by omega
  have hadded : sum? (scores elements) = some ⟨(scores elements).sum, hsum⟩ := by
    rw [sum?_eq_ofNat?]
    exact ofNat?_of_lt hsum
  rw [averageScore?, hadded, Option.bind_eq_bind, Option.bind_some, ofNat?_of_lt hlength,
    Option.bind_some, averageScore_eq_roundHalfUp]
  exact roundHalfUp?_eq_ofNat? hsum hlength (by omega) (by omega)

/-- **The mean score is exact.** For fewer than 2⁵⁰ elements no number on the way to it needs more
than 64 bits, and it is not cut to 32. It is 0 if there are no elements, and otherwise the rational
mean, rounded a half upwards. It lies between the least and the greatest score, it does not depend
on the order of the elements, and it does not become less when a score is raised. -/
theorem averageScore_exact (elements : List Element) (h : elements.length < 2 ^ 50) :
    (∃ c, Count.averageScore? elements = some c ∧ c.val = averageScore elements) ∧
    (elements = [] → averageScore elements = 0) ∧
    (elements ≠ [] → (averageScore elements : Int) =
      ⌊((scores elements).sum : ℚ) / elements.length + 1 / 2⌋) ∧
    (∀ low high, (scores elements).min? = some low → (scores elements).max? = some high →
      low ≤ averageScore elements ∧ averageScore elements ≤ high) ∧
    (∀ others, others.Perm elements → averageScore others = averageScore elements) ∧
    (∀ front e back score, elements = front ++ e :: back → e.overallScore ≤ score →
      averageScore elements ≤
        averageScore (front ++ { e with overallScore := score } :: back)) := by
  have hfits : averageScore elements < wordSize :=
    Nat.lt_of_le_of_lt (averageScore_le score_le) (by decide)
  refine ⟨⟨⟨averageScore elements, hfits⟩, ?_, rfl⟩, ?_, ?_, ?_, fun _ => averageScore_perm, ?_⟩
  · rw [Count.averageScore?_eq_ofNat? h]
    exact Count.ofNat?_of_lt hfits
  · rintro rfl
    rfl
  · intro helements
    rw [averageScore_eq_roundHalfUp]
    exact roundHalfUp_eq_floor (List.length_pos_iff.2 helements)
  · intro low high hlow hhigh
    have helements : elements ≠ [] := by
      rintro rfl
      cases hlow
    exact ⟨le_averageScore helements (List.min?_eq_some_iff.1 hlow).2,
      averageScore_le (List.max?_eq_some_iff.1 hhigh).2⟩
  · rintro front e back score rfl hscore
    exact averageScore_le_of_raised hscore front back

/-- Elements with the given scores. -/
def scoredElements (given : List Score) : List Element :=
  given.map fun score => ⟨"1", "", .pending, none, score, none, none, .epoch⟩

/-- The mean of 40 and 255 lies in the middle between two whole numbers. -/
theorem averageScore_exact_halfway :
    (scoredElements [40, 255]).length < 2 ^ 50 ∧ averageScore (scoredElements [40, 255]) = 148 ∧
      averageScore (scoredElements [40, 255]) ≤ averageScore (scoredElements [41, 255]) := by
  have hshort : (scoredElements [40, 255]).length < 2 ^ 50 := by decide
  obtain ⟨_, _, hmean, _, _, hraised⟩ := averageScore_exact (scoredElements [40, 255]) hshort
  have hsum : (scores (scoredElements [40, 255])).sum = 295 := by decide
  have hlength : (scoredElements [40, 255]).length = 2 := by decide
  have hfloor : ⌊((scores (scoredElements [40, 255])).sum : ℚ) /
      (scoredElements [40, 255]).length + 1 / 2⌋ = 148 := by
    rw [hsum, hlength, Int.floor_eq_iff]
    norm_num
  refine ⟨hshort, ?_, hraised [] _ _ 41 rfl (by decide)⟩
  exact Int.ofNat_inj.1 ((hmean (by decide)).trans hfloor)

end DataGovernance
