import DataGovernance.Rounding
import Mathlib.Algebra.Order.Floor.Ring
import Mathlib.Data.Rat.Floor
import Mathlib.Tactic.FieldSimp
import Mathlib.Tactic.Linarith
import Mathlib.Tactic.Ring

/-!
# Quotients rounded a half upwards

A whole number is at most a rounded quotient exactly when it is at most half above the quotient
itself. Where a rounded quotient lies, and that it grows with its numerator, is read off from that.
In rational arithmetic it is the floor of a half above the quotient.

Two quotients that make up a whole number, rounded each, make up one more only if both are rounded
up from a half.

Key theorems: `le_roundHalfUp_iff`, `roundHalfUp_eq_floor`, `fract_eq_half_iff`,
`roundHalfUp_add_complement`.
-/

namespace DataGovernance

variable {num num' den k q : Nat}

/-! ### Where a rounded quotient lies -/

theorem le_roundHalfUp_iff (hden : 0 < den) :
    q ≤ roundHalfUp num den ↔ q * (2 * den) ≤ 2 * num + den := by
  rw [roundHalfUp, if_neg (by omega)]
  exact Nat.le_div_iff_mul_le (by omega)

/-- The rounded quotient in terms of its product with the divisor alone. -/
theorem roundHalfUp_eq_iff (hden : 0 < den) :
    roundHalfUp num den = q ↔
      2 * (q * den) ≤ 2 * num + den ∧ 2 * num < 2 * (q * den) + den := by
  rw [roundHalfUp_iff hden]
  have hlow : 2 * q * den = 2 * (q * den) := Nat.mul_assoc 2 q den
  have hhigh : 2 * (q + 1) * den = 2 * (q * den) + 2 * den := by ring
  omega

@[simp] theorem roundHalfUp_zero_right (num : Nat) : roundHalfUp num 0 = 0 := if_pos rfl

theorem roundHalfUp_mono (h : num ≤ num') : roundHalfUp num den ≤ roundHalfUp num' den := by
  rcases Nat.eq_zero_or_pos den with rfl | hden
  · simp
  have hself := (le_roundHalfUp_iff hden).1 (Nat.le_refl (roundHalfUp num den))
  exact (le_roundHalfUp_iff hden).2 (by omega)

/-- A quotient of at most a whole number is rounded to at most that number. -/
theorem roundHalfUp_le (h : num ≤ k * den) : roundHalfUp num den ≤ k := by
  rcases Nat.eq_zero_or_pos den with rfl | hden
  · simp
  refine Nat.not_lt.1 fun hover => ?_
  have htoo : (k + 1) * (2 * den) ≤ 2 * num + den := (le_roundHalfUp_iff hden).1 hover
  have hexpand : (k + 1) * (2 * den) = 2 * (k * den) + 2 * den := by ring
  omega

/-- A quotient of at least a whole number is rounded to at least that number. -/
theorem le_roundHalfUp (hden : 0 < den) (h : k * den ≤ num) : k ≤ roundHalfUp num den := by
  refine (le_roundHalfUp_iff hden).2 ?_
  calc k * (2 * den) = 2 * (k * den) := by ring
    _ ≤ 2 * num + den := by omega

theorem roundHalfUp_eq_floor (hden : 0 < den) :
    (roundHalfUp num den : Int) = ⌊(num : ℚ) / den + 1 / 2⌋ := by
  have hpos : (0 : ℚ) < den := by exact_mod_cast hden
  have hsum : (num : ℚ) / den + 1 / 2 = ((2 * num + den : Nat) : ℚ) / ((2 * den : Nat) : ℚ) := by
    push_cast
    field_simp
  rw [hsum, Rat.floor_natCast_div_natCast, roundHalfUp, if_neg (by omega)]
  rfl

/-! ### Ties -/

/-- A quotient lies in the middle between two whole numbers exactly when it is a half below the
number it is rounded to. -/
theorem fract_eq_half_iff (hden : 0 < den) :
    Int.fract ((num : ℚ) / den) = 1 / 2 ↔ 2 * (roundHalfUp num den * den) = 2 * num + den := by
  have hpos : (0 : ℚ) < den := by exact_mod_cast hden
  have hfloor : (roundHalfUp num den : Int) = ⌊(num : ℚ) / den + 1 / 2⌋ :=
    roundHalfUp_eq_floor hden
  have hlift : 2 * (roundHalfUp num den * den) = 2 * num + den ↔
      (num : ℚ) / den = roundHalfUp num den - 1 / 2 := by
    rw [← Nat.cast_inj (R := ℚ)]
    push_cast
    rw [div_eq_iff hpos.ne']
    constructor <;> intro h <;> linarith
  rw [hlift]
  constructor
  · intro hhalf
    have hwhole : (num : ℚ) / den + 1 / 2 = (⌊(num : ℚ) / den⌋ + 1 : Int) := by
      push_cast
      linarith [Int.floor_add_fract ((num : ℚ) / den)]
    rw [hwhole, Int.floor_intCast] at hfloor
    have hcast : (roundHalfUp num den : ℚ) = (⌊(num : ℚ) / den⌋ + 1 : Int) := by
      rw [← hfloor]
      rfl
    linarith
  · intro hhalf
    refine Int.fract_eq_iff.2 ⟨by norm_num, by norm_num, roundHalfUp num den - 1, ?_⟩
    push_cast
    linarith

/-- **Two quotients that make up a whole number.** Rounded, they make it up as well, or one more if
each of them lies in the middle between two whole numbers. -/
theorem roundHalfUp_add_complement (hden : 0 < den) (h : num ≤ k * den) :
    roundHalfUp num den + roundHalfUp (k * den - num) den =
      if Int.fract ((num : ℚ) / den) = 1 / 2 then k + 1 else k := by
  obtain ⟨r, hr⟩ := Nat.exists_eq_add_of_le (roundHalfUp_le h)
  obtain ⟨hlow, hhigh⟩ := (roundHalfUp_eq_iff hden).1 (Eq.refl (roundHalfUp num den))
  simp only [fract_eq_half_iff hden]
  generalize roundHalfUp num den = q at hr hlow hhigh
  subst hr
  -- with `q * den` and `r * den` as atoms every bound is linear
  have hwhole : (q + r) * den = q * den + r * den := Nat.add_mul q r den
  by_cases htie : 2 * (q * den) = 2 * num + den
  · have hother : roundHalfUp ((q + r) * den - num) den = r + 1 := by
      rw [roundHalfUp_eq_iff hden, Nat.succ_mul r]
      omega
    rw [if_pos htie, hother]
    omega
  · have hother : roundHalfUp ((q + r) * den - num) den = r := by
      rw [roundHalfUp_eq_iff hden]
      omega
    rw [if_neg htie, hother]

end DataGovernance
