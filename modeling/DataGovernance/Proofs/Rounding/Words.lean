import DataGovernance.Count
import DataGovernance.Rounding

/-!
# Rounding with 64 bits

The figures of a summary are defined over all natural numbers. Here the steps behind a rounded
quotient are taken with numbers of 64 bits, and a step that does not fit has no result. A sum is
taken from left to right, and only its total has to fit. A rounded quotient has twice the divisor
and twice the numerator with the divisor on the way.

Key definitions: `Count.ofNat?`, `Count.sum?`, `Count.roundHalfUp?`.
Key theorems: `Count.sum?_eq_ofNat?`, `Count.roundHalfUp?_eq_ofNat?`.
-/

namespace DataGovernance.Count

/-- A number as a count, if it has 64 bits. -/
def ofNat? (n : Nat) : Option Count := if h : n < wordSize then some ⟨n, h⟩ else none

/-- The sum of two counts, if it is a count. -/
def add? (a b : Count) : Option Count := ofNat? (a.val + b.val)

/-- The product of two counts, if it is a count. -/
def mul? (a b : Count) : Option Count := ofNat? (a.val * b.val)

/-- The total of a list, taken from left to right, if every sum on the way is a count. -/
def sum? (ns : List Nat) : Option Count :=
  ns.foldlM (fun sum n => (ofNat? n).bind fun c => add? sum c) 0

/-- A quotient rounded a half upwards, if every number on the way is a count. -/
def roundHalfUp? (num den : Count) : Option Count :=
  if den = 0 then some 0
  else do
    let twice ← mul? 2 num
    let above ← add? twice den
    let below ← mul? 2 den
    return above / below

variable {m n : Nat}

theorem ofNat?_of_lt (h : n < wordSize) : ofNat? n = some ⟨n, h⟩ := dif_pos h

theorem ofNat?_of_le (h : wordSize ≤ n) : ofNat? n = none := dif_neg (Nat.not_lt.2 h)

theorem ofNat?_val (c : Count) : ofNat? c.val = some c := ofNat?_of_lt c.isLt

theorem add?_of_lt (hm : m < wordSize) (hn : n < wordSize) (h : m + n < wordSize) :
    add? ⟨m, hm⟩ ⟨n, hn⟩ = some ⟨m + n, h⟩ := ofNat?_of_lt h

theorem mul?_of_lt (hm : m < wordSize) (hn : n < wordSize) (h : m * n < wordSize) :
    mul? ⟨m, hm⟩ ⟨n, hn⟩ = some ⟨m * n, h⟩ := ofNat?_of_lt h

theorem two_mul?_of_lt (hn : n < wordSize) (h : 2 * n < wordSize) :
    mul? 2 ⟨n, hn⟩ = some ⟨2 * n, h⟩ := ofNat?_of_lt h

/-- From a first summand on, numbers are summed up if and only if the whole sum is a count. -/
theorem foldlM_add? (ns : List Nat) (sum : Count) :
    ns.foldlM (fun sum n => (ofNat? n).bind fun c => add? sum c) sum =
      ofNat? (sum.val + total ns) := by
  induction ns generalizing sum with
  | nil => exact (ofNat?_val sum).symm
  | cons n ns ih =>
    rw [List.foldlM_cons, total_cons]
    by_cases hfits : sum.val + n < wordSize
    · have hadd : (ofNat? n).bind (fun c => add? sum c) = some ⟨sum.val + n, hfits⟩ := by
        rw [ofNat?_of_lt (by omega : n < wordSize)]
        exact ofNat?_of_lt hfits
      rw [hadd, Option.bind_eq_bind, Option.bind_some, ih, Nat.add_assoc]
    · -- what does not fit on the way does not fit at the end either
      have hadd : (ofNat? n).bind (fun c => add? sum c) = none := by
        by_cases hn : n < wordSize
        · rw [ofNat?_of_lt hn]
          exact ofNat?_of_le (Nat.not_lt.1 hfits)
        · rw [ofNat?_of_le (Nat.not_lt.1 hn)]
          rfl
      rw [hadd, ofNat?_of_le (by omega)]
      rfl

/-- A sum of numbers fits 64 bits all the way if its total does. -/
theorem sum?_eq_ofNat? (ns : List Nat) : sum? ns = ofNat? (total ns) := by
  rw [sum?, foldlM_add?]
  exact congrArg ofNat? (Nat.zero_add _)

/-- A quotient is rounded with 64 bits as it is in exact arithmetic if the two numbers that are
divided have 64 bits. -/
theorem roundHalfUp?_eq_ofNat? {num den : Nat} (hnum : num < wordSize) (hden : den < wordSize)
    (habove : 2 * num + den < wordSize) (hbelow : 2 * den < wordSize) :
    roundHalfUp? ⟨num, hnum⟩ ⟨den, hden⟩ = ofNat? (roundHalfUp num den) := by
  rcases Nat.eq_zero_or_pos den with rfl | hpos
  · rfl
  have hne : (⟨den, hden⟩ : Count) ≠ 0 := by
    intro hzero
    exact Nat.ne_of_gt hpos (congrArg Fin.val hzero)
  have htwice : 2 * num < wordSize := Nat.lt_of_le_of_lt (Nat.le_add_right _ _) habove
  have hquotient : (2 * num + den) / (2 * den) < wordSize :=
    Nat.lt_of_le_of_lt (Nat.div_le_self _ _) habove
  rw [roundHalfUp?, if_neg hne, two_mul?_of_lt hnum htwice, Option.bind_eq_bind, Option.bind_some,
    add?_of_lt htwice hden habove, Option.bind_some, two_mul?_of_lt hden hbelow, Option.bind_some,
    roundHalfUp, if_neg (Nat.ne_of_gt hpos), ofNat?_of_lt hquotient]
  rfl

/-- Twice a numerator of 64 bits may have 65. -/
example : roundHalfUp? ⟨signedSize, by decide⟩ 1 = none := by decide

end DataGovernance.Count
