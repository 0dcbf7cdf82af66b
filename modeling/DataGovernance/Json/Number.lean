import DataGovernance.Binary64
import DataGovernance.Count

/-!
# Numbers of a JSON text

A literal without fraction and exponent that fits 64 bits is a whole number; every other literal
(also `-0`) is a decimal, of which the leading digits below `2 ^ 64` are kept: those before the
point, and then those behind it.

A decimal stands for the binary64 value that is reached by scaling its digits by a power of ten
and rounding to the nearest (ties to even) after each step. It is out of range when that value is
infinite, and it is shown with the fewest digits that round to the same value.

Key definitions: `Number`, `Decimal`, `Decimal.toBinary64?`.
-/

namespace DataGovernance.Json

open DataGovernance.Text

/-- A decimal literal, `± digits * 10 ^ exponent`. -/
structure Decimal where
  negative : Bool
  digits : Nat
  exponent : Int
  deriving Repr, DecidableEq

namespace Decimal

/-- Divides by `10 ^ 308` until the exponent is small or nothing is left. -/
def shrink : Nat → Binary64 → Nat → Option (Binary64 × Nat)
  | 0, x, e => some (x, e)
  | steps + 1, x, e =>
    if e ≤ 308 then some (x, e)
    else if x.mantissa = 0 then some (x, 0)
    else do
      let unit ← Binary64.nearest? (Nat.pow 10 308) 1
      let x ← x.div? unit
      shrink steps x (e - 308)

/-- The binary64 value of a decimal, or nothing when it is infinite. -/
def toBinary64? (d : Decimal) : Option Binary64 := do
  let x ← Binary64.nearest? d.digits 1
  if 308 < d.exponent then
    if x.mantissa = 0 then some x else none
  else if 0 ≤ d.exponent then
    let unit ← Binary64.nearest? (Nat.pow 10 d.exponent.toNat) 1
    x.mul? unit
  else
    -- three divisions by `10 ^ 308` bring every value below the least one
    let (x, e) ← shrink 4 x (-d.exponent).toNat
    if 308 < e then some ⟨0, Binary64.minExponent⟩
    else
      let unit ← Binary64.nearest? (Nat.pow 10 e) 1
      x.div? unit

/-- The text of a decimal: that of its binary64 value. -/
def text (d : Decimal) : List Char :=
  let sign := if d.negative then ['-'] else []
  match d.toBinary64? with
  | some x => sign ++ x.text
  | none => sign ++ ['i', 'n', 'f']

/-- Takes digits as long as the number they stand for stays below `2 ^ 64`; the answer is that
number and how many digits were left. -/
def leading (n : Nat) : List Char → Nat × Nat
  | [] => (n, 0)
  | c :: cs =>
    let next := n * 10 + (c.toNat - '0'.toNat)
    if next < wordSize then leading next cs else (n, cs.length + 1)

/-- The decimal with the given digits before and after its point and the given exponent. -/
def ofDigits (negative : Bool) (whole fraction : List Char) (exponent : Int) : Decimal :=
  let (n, wholeLeft) := leading 0 whole
  let (n, fractionLeft) := leading n fraction
  ⟨negative, n, exponent + wholeLeft - (fraction.length - fractionLeft : Nat)⟩

end Decimal

/-- A number of a JSON text. -/
inductive Number where
  /-- A whole number between `-2 ^ 63` and `2 ^ 64 - 1`. -/
  | int (i : Int)
  /-- Any other number. -/
  | real (d : Decimal)
  deriving Repr, DecidableEq

/-- A literal without fraction and exponent: whole when it fits 64 bits, and `-0` is not. -/
def Number.ofWhole (negative : Bool) (ds : List Char) : Number :=
  let n := value ds
  if negative then
    if 0 < n ∧ n ≤ signedSize then .int (-n) else .real (.ofDigits true ds [] 0)
  else if n < wordSize then .int n else .real (.ofDigits false ds [] 0)

end DataGovernance.Json
