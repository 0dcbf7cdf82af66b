import DataGovernance.Proofs.Rounding.HalfUp
import DataGovernance.Proofs.Rounding.Words
import Mathlib.Tactic.NormNum

/-!
# What a percentage shows

A percentage of a list is shown as a whole number. It is 0 while less than half a percent of the
items satisfy the condition, and 100 when at most half a percent do not. So of fewer than two
hundred items all satisfy it if 100 is shown, while of more items some may not. With another item
satisfying the condition it does not become less.

The percentages of a condition and of its negation make up 100, except when both lie in the middle
between two whole numbers and are rounded up.

Key definition: `Count.percentage?`.
Key theorems: `le_percentage_iff`, `Count.percentage?_eq_ofNat?`, `percentage_faithful`.
-/

namespace DataGovernance

variable {α : Type} (items : List α) (p : α → Bool)

/-- The percentage with numbers of 64 bits, if every number on the way has 64 bits. -/
def Count.percentage? : Option Count := do
  let matching ← ofNat? (items.countP p)
  let hundred ← ofNat? 100
  let length ← ofNat? items.length
  roundHalfUp? (← mul? matching hundred) length

theorem countP_mul_le : items.countP p * 100 ≤ 100 * items.length := by
  have hcount : items.countP p ≤ items.length := List.countP_le_length
  omega

/-- A percentage never needs to be cut to 32 bits. -/
theorem percentage_eq_roundHalfUp :
    percentage items p = roundHalfUp (items.countP p * 100) items.length := by
  have hle := roundHalfUp_le (countP_mul_le items p)
  exact Nat.min_eq_left (Nat.le_trans hle (by decide))

theorem percentage_le : percentage items p ≤ 100 := by
  rw [percentage_eq_roundHalfUp]
  exact roundHalfUp_le (countP_mul_le items p)

/-- With 64 bits the percentage of a list that is not too long is the exact one. -/
theorem Count.percentage?_eq_ofNat? (h : items.length < 2 ^ 50) :
    percentage? items p = ofNat? (percentage items p) := by
  have hroom : 201 * 2 ^ 50 ≤ wordSize := by decide
  have hcount : items.countP p ≤ items.length := List.countP_le_length
  have hlength : items.length < wordSize := by omega
  have hmatching : items.countP p < wordSize := by omega
  have hhundred : items.countP p * 100 < wordSize := by omega
  rw [percentage?, ofNat?_of_lt hmatching, Option.bind_eq_bind, Option.bind_some,
    ofNat?_of_lt (by decide : 100 < wordSize), Option.bind_some, ofNat?_of_lt hlength,
    Option.bind_some, mul?_of_lt hmatching _ hhundred, Option.bind_some,
    percentage_eq_roundHalfUp]
  exact roundHalfUp?_eq_ofNat? hhundred hlength (by omega) (by omega)

/-! ### The ends of the scale -/

variable {items} in
theorem le_percentage_iff (hitems : 0 < items.length) {k : Nat} :
    k ≤ percentage items p ↔
      k * (2 * items.length) ≤ 2 * (items.countP p * 100) + items.length := by
  rw [percentage_eq_roundHalfUp]
  exact le_roundHalfUp_iff hitems

theorem percentage_eq_zero_iff :
    percentage items p = 0 ↔ items.length = 0 ∨ 200 * items.countP p < items.length := by
  rcases Nat.eq_zero_or_pos items.length with hnone | hitems
  · have hzero : percentage items p = 0 := by
      rw [percentage_eq_roundHalfUp, hnone, roundHalfUp_zero_right]
    exact iff_of_true hzero (.inl hnone)
  · have hone := le_percentage_iff p hitems (k := 1)
    omega

theorem percentage_eq_hundred_iff :
    percentage items p = 100 ↔
      0 < items.length ∧ 200 * (items.length - items.countP p) ≤ items.length := by
  rcases Nat.eq_zero_or_pos items.length with hnone | hitems
  · have hzero := (percentage_eq_zero_iff items p).2 (.inl hnone)
    omega
  · have hle := percentage_le items p
    have hhundred := le_percentage_iff p hitems (k := 100)
    omega

variable {items p}

/-- Of fewer than two hundred items all satisfy the condition if 100 is shown. -/
theorem forall_of_percentage_eq_hundred (hfew : items.length < 200)
    (h : percentage items p = 100) : ∀ a ∈ items, p a := by
  obtain ⟨_, hmissing⟩ := (percentage_eq_hundred_iff items p).1 h
  have hcount : items.countP p ≤ items.length := List.countP_le_length
  exact List.countP_eq_length.1 (by omega)

/-! ### One item more -/

/-- The percentage does not become less when an item comes to satisfy the condition. -/
theorem percentage_le_of_turned {x y : α} (hx : ¬p x) (hy : p y) (front back : List α) :
    percentage (front ++ x :: back) p ≤ percentage (front ++ y :: back) p := by
  have hlength : (front ++ y :: back).length = (front ++ x :: back).length := by simp
  have hcount : (front ++ x :: back).countP p ≤ (front ++ y :: back).countP p := by
    rw [List.countP_append, List.countP_append, List.countP_cons_of_neg hx,
      List.countP_cons_of_pos hy]
    omega
  rw [percentage_eq_roundHalfUp, percentage_eq_roundHalfUp, hlength]
  exact roundHalfUp_mono (Nat.mul_le_mul_right 100 hcount)

/-! ### A condition and its negation -/

theorem percentage_add_not (hitems : 0 < items.length) :
    percentage items p + percentage items (fun a => !p a) =
      if Int.fract ((100 * items.countP p : ℚ) / items.length) = 1 / 2 then 101 else 100 := by
  have hothers :
      items.countP (fun a => !p a) * 100 = 100 * items.length - items.countP p * 100 := by
    have hall := List.length_eq_countP_add_countP p (l := items)
    simp only [Bool.not_eq_true, Bool.decide_eq_false] at hall
    omega
  have hquotient : (100 * items.countP p : ℚ) = (items.countP p * 100 : Nat) := by
    push_cast
    ring
  rw [percentage_eq_roundHalfUp, percentage_eq_roundHalfUp, hothers, hquotient]
  exact roundHalfUp_add_complement hitems (countP_mul_le items p)

/-! ### What a percentage shows -/

/-- **A percentage shows what it should, up to the rounding.** For fewer than 2⁵⁰ items no number
on the way to it needs more than 64 bits, and it is at most 100. It is 0 exactly if there are no
items or less than half a percent of them satisfy the condition, and 100 exactly if there are some
and at most half a percent of them do not, which is none of fewer than two hundred. It does not
become less when an item comes to satisfy the condition. With the percentage of the negation it
makes up 100, or 101 exactly if the percentage has the fraction one half before it is rounded. -/
theorem percentage_faithful (items : List α) (p : α → Bool) (h : items.length < 2 ^ 50) :
    (∃ c, Count.percentage? items p = some c ∧ c.val = percentage items p) ∧
    percentage items p ≤ 100 ∧
    (percentage items p = 0 ↔ items.length = 0 ∨ 200 * items.countP p < items.length) ∧
    (percentage items p = 100 ↔
      0 < items.length ∧ 200 * (items.length - items.countP p) ≤ items.length) ∧
    (items.length < 200 → percentage items p = 100 → ∀ a ∈ items, p a) ∧
    (∀ front x y back, items = front ++ x :: back → ¬p x → p y →
      percentage items p ≤ percentage (front ++ y :: back) p) ∧
    (0 < items.length →
      percentage items p + percentage items (fun a => !p a) =
        if Int.fract ((100 * items.countP p : ℚ) / items.length) = 1 / 2 then 101 else 100) := by
  have hle := percentage_le items p
  have hfits : percentage items p < wordSize := Nat.lt_of_le_of_lt hle (by decide)
  refine ⟨⟨⟨percentage items p, hfits⟩, ?_, rfl⟩, hle, percentage_eq_zero_iff items p,
    percentage_eq_hundred_iff items p, forall_of_percentage_eq_hundred, ?_, percentage_add_not⟩
  · rw [Count.percentage?_eq_ofNat? items p h]
    exact Count.ofNat?_of_lt hfits
  · rintro front x y back rfl hx hy
    exact percentage_le_of_turned hx hy front back

/-- One of eight. -/
def oneOfEight : List Bool := [false, true, false, false, false, false, false, false]

theorem percentage_faithful_oneOfEight :
    oneOfEight.length < 2 ^ 50 ∧
      percentage oneOfEight id ≤ percentage (true :: oneOfEight.tail) id ∧
      percentage oneOfEight id + percentage oneOfEight (fun a => !id a) = 101 := by
  have hshort : oneOfEight.length < 2 ^ 50 := by decide
  obtain ⟨_, _, _, _, _, hturned, hnot⟩ := percentage_faithful oneOfEight id hshort
  have hcount : oneOfEight.countP id = 1 := by decide
  have hlength : oneOfEight.length = 8 := by decide
  have hhalf : Int.fract ((100 * oneOfEight.countP id : ℚ) / oneOfEight.length) = 1 / 2 := by
    rw [hcount, hlength]
    exact Int.fract_eq_iff.2 ⟨by norm_num, by norm_num, 12, by norm_num⟩
  refine ⟨hshort, hturned [] false true oneOfEight.tail rfl (by decide) rfl, ?_⟩
  rw [hnot (by decide), if_pos hhalf]

end DataGovernance
