/-!
# Rounded ratios

Ratios are rounded to whole numbers, a half upwards, in exact arithmetic. A ratio of nothing is
zero. A figure never exceeds 32 bits.

Key definitions: `roundHalfUp`, `figure`, `percentage`.
Key theorem: `roundHalfUp_iff`.
-/

namespace DataGovernance

/-- A quotient rounded to the nearest whole number, a half upwards; zero if the divisor is. -/
def roundHalfUp (num den : Nat) : Nat := if den = 0 then 0 else (2 * num + den) / (2 * den)

/-- The greatest number of 32 bits. -/
def maxFigure : Nat := 4294967295

/-- A rounded quotient as a figure to be shown. -/
def figure (num den : Nat) : Nat := min (roundHalfUp num den) maxFigure

/-- The share of the items that satisfy a condition, in percent. -/
def percentage {α : Type} (items : List α) (p : α → Bool) : Nat :=
  figure (items.countP p * 100) items.length

/-- The rounded quotient is the only whole number from half below to half above the quotient. -/
theorem roundHalfUp_iff {num den q : Nat} (h : 0 < den) :
    roundHalfUp num den = q ↔ 2 * q * den ≤ 2 * num + den ∧ 2 * num + den < 2 * (q + 1) * den := by
  unfold roundHalfUp
  rw [if_neg (by omega), Nat.div_eq_iff (by omega)]
  have h₁ : q * (2 * den) = 2 * q * den := by rw [Nat.mul_left_comm, Nat.mul_assoc]
  have h₂ : 2 * (q + 1) * den = 2 * q * den + 2 * den := by
    rw [Nat.mul_add, Nat.add_mul]
  rw [h₁, h₂]
  omega

end DataGovernance
