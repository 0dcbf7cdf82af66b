import DataGovernance.Text.Digits

/-!
# Binary64 values in exact arithmetic

A finite binary64 value is a mantissa times a power of two. Quotients of natural numbers are rounded
to the nearest such value, ties to even, and a value is shown with the fewest digits that round to
it.

Key definitions: `Binary64`, `nearest?`, `ofDecimal?`, `shortest`, `text`, `plainText`.
-/

namespace DataGovernance

open Text

/-- A finite nonnegative binary64 value, `mantissa * 2 ^ exponent`. -/
structure Binary64 where
  mantissa : Nat
  exponent : Int
  deriving Repr, DecidableEq

namespace Binary64

/-- The least exponent of a binary64 value. -/
def minExponent : Int := -1074

/-- The greatest exponent of a binary64 value with a full mantissa. -/
def maxExponent : Int := 971

/-- `num / den` scaled down by `2 ^ exponent`, as a quotient of natural numbers. -/
def scale (num den : Nat) (exponent : Int) : Nat × Nat :=
  if 0 ≤ exponent then (num, den * Nat.pow 2 exponent.toNat)
  else (num * Nat.pow 2 (-exponent).toNat, den)

/-- The whole number nearest to a quotient, an exact half going to the even neighbour. -/
def roundHalfEven (num den : Nat) : Nat :=
  let q := num / den
  let r := num % den
  if 2 * r < den then q
  else if den < 2 * r then q + 1
  else if q % 2 = 0 then q else q + 1

/-- The binary64 value nearest to `num / den`, or nothing when that is infinite. -/
def nearest? (num den : Nat) : Option Binary64 :=
  if num = 0 then some ⟨0, minExponent⟩
  else
    let low := max ((Nat.log2 num : Int) - Nat.log2 den - 53) minExponent
    let (n, d) := scale num den low
    let exponent := if Nat.pow 2 53 ≤ n / d then low + 1 else low
    let (n, d) := scale num den exponent
    let m := roundHalfEven n d
    let (m, exponent) := if m = Nat.pow 2 53 then (Nat.pow 2 52, exponent + 1) else (m, exponent)
    if maxExponent < exponent then none else some ⟨m, exponent⟩

/-- A value as a quotient of natural numbers. -/
def quotient (x : Binary64) : Nat × Nat :=
  if 0 ≤ x.exponent then (x.mantissa * Nat.pow 2 x.exponent.toNat, 1)
  else (x.mantissa, Nat.pow 2 (-x.exponent).toNat)

/-- The product of two values, rounded once. -/
def mul? (x y : Binary64) : Option Binary64 :=
  nearest? (x.quotient.1 * y.quotient.1) (x.quotient.2 * y.quotient.2)

/-- The quotient of two values, rounded once. -/
def div? (x y : Binary64) : Option Binary64 :=
  nearest? (x.quotient.1 * y.quotient.2) (x.quotient.2 * y.quotient.1)

/-- The least and the greatest real that round to a value, in quarters of its last place, and
whether they do so themselves. -/
def window (x : Binary64) : Nat × Nat × Bool :=
  let below := if x.mantissa = Nat.pow 2 52 ∧ minExponent < x.exponent then 1 else 2
  (4 * x.mantissa - below, 4 * x.mantissa + 2, x.mantissa % 2 = 0)

/-- The multiple of `10 ^ place` that rounds to a value, if one of its two neighbours does; the
nearer of the two, and of two equally near ones the even. -/
def onGrid? (x : Binary64) (place : Int) : Option Nat :=
  let (low, high, closed) := x.window
  -- a real `n / d * 10 ^ place` is compared after clearing all denominators
  let (twos, halves) := if 0 ≤ x.exponent then (Nat.pow 2 x.exponent.toNat, 1)
    else (1, Nat.pow 2 (-x.exponent).toNat)
  let (tens, tenths) := if 0 ≤ place then (Nat.pow 10 place.toNat, 1)
    else (1, Nat.pow 10 (-place).toNat)
  let scaled (quarters : Nat) : Nat := quarters * twos * tenths
  let grid (c : Nat) : Nat := 4 * c * tens * halves
  let inside (c : Nat) : Bool :=
    0 < c && (if closed then scaled low ≤ grid c && grid c ≤ scaled high
      else scaled low < grid c && grid c < scaled high)
  let down := scaled (4 * x.mantissa) / (4 * tens * halves)
  let up := down + 1
  match inside down, inside up with
  | true, false => some down
  | false, true => some up
  | true, true =>
    let toDown := scaled (4 * x.mantissa) - grid down
    let toUp := grid up - scaled (4 * x.mantissa)
    if toDown < toUp then some down else if toUp < toDown then some up
    else if down % 2 = 0 then some down else some up
  | false, false => none

/-- Searches the grids `10 ^ place`, `10 ^ (place - 1)`, … for the coarsest that has a multiple
rounding to the value. -/
def coarsest (x : Binary64) : Nat → Int → Nat × Int
  | 0, place => (0, place)
  | steps + 1, place =>
    match x.onGrid? place with
    | some c => (c, place)
    | none => coarsest x steps (place - 1)

/-- The fewest digits that round to the value, with the place of the last one. -/
def shortest (x : Binary64) : Nat × Int := coarsest x 700 310

/-- An exponent with its sign. -/
def exponentText (e : Int) : List Char :=
  'e' :: if 0 ≤ e then '+' :: integer e else integer e

/-- The text of a value: positional from `10 ^ -5` to `10 ^ 16`, otherwise with an exponent. -/
def text (x : Binary64) : List Char :=
  if x.mantissa = 0 then ['0', '.', '0']
  else
    let (c, place) := x.shortest
    let ds := digits c
    let point : Int := ds.length + place
    if 0 ≤ place ∧ point ≤ 16 then ds ++ List.replicate place.toNat '0' ++ ['.', '0']
    else if 0 < point ∧ point ≤ 16 then ds.take point.toNat ++ '.' :: ds.drop point.toNat
    else if -5 < point ∧ point ≤ 0 then '0' :: '.' :: List.replicate (-point).toNat '0' ++ ds
    else match ds with
      | [d] => d :: exponentText (point - 1)
      | d :: more => d :: '.' :: more ++ exponentText (point - 1)
      | [] => []

/-- The value nearest to `n * 10 ^ exponent`, or nothing when that is infinite. Exponents far
outside the range are decided by the number of digits alone. -/
def ofDecimal? (n : Nat) (exponent : Int) : Option Binary64 :=
  let places : Int := (digits n).length + exponent
  if n = 0 ∨ places < -330 then some ⟨0, minExponent⟩
  else if 310 < places then none
  else if 0 ≤ exponent then nearest? (n * Nat.pow 10 exponent.toNat) 1
  else nearest? n (Nat.pow 10 (-exponent).toNat)

/-- The text of a value without an exponent, a whole number without a point. -/
def plainText (x : Binary64) : List Char :=
  if x.mantissa = 0 then ['0']
  else
    let (c, place) := x.shortest
    let ds := digits c
    let point : Int := ds.length + place
    if 0 ≤ place then ds ++ List.replicate place.toNat '0'
    else if 0 < point then ds.take point.toNat ++ '.' :: ds.drop point.toNat
    else '0' :: '.' :: List.replicate (-point).toNat '0' ++ ds

end Binary64

end DataGovernance
