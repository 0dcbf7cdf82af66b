import DataGovernance.Binary64
import DataGovernance.Count
import DataGovernance.Settings.Datum
import DataGovernance.Toml.Text

/-!
# Numbers, dates and times in TOML

Whole numbers have 64 bits and a sign, in decimal or without one in hexadecimal, octal or binary.
Numbers with a fraction or an exponent are binary64. Underscores may stand between digits. Dates and
times are checked and kept as they are written.

Key definitions: `integer`, `fraction`, `moment`.
-/

namespace DataGovernance.Toml

open Reads

/-! ### Digits -/

/-- A further digit, which an underscore may precede. -/
def laterDigit (isDigit : Char → Bool) : Reads Char :=
  orElse (oneOf isDigit) (do char '_'; settle (expecting ["digit"] (oneOf isDigit)))

/-- Digits with underscores between them. -/
def digitRun (isDigit : Char → Bool) : Reads (List Char) := do
  let d ← oneOf isDigit
  let ds ← many (laterDigit isDigit)
  return d :: ds

/-- A sign; whether it is a minus. -/
def sign : Reads Bool := do
  match ← optional (oneOf fun c => c == '+' || c == '-') with
  | some c => return c == '-'
  | none => return false

/-- A whole number in decimal: whether it has a minus, and its digits, which begin with a zero only
when that is all. -/
def decimal : Reads (Bool × List Char) :=
  inside "integer" do
    let negative ← sign
    let ds ← orElse (do
        let d ← oneOf fun c => c.isDigit && c != '0'
        let ds ← many (laterDigit Char.isDigit)
        return d :: ds)
      ((fun d => [d]) <$> oneOf Char.isDigit)
    return (negative, ds)

/-- A whole number of 64 bits with a sign. -/
def signed? (negative : Bool) (n : Nat) : Except String Datum :=
  if negative then
    if n ≤ signedSize then .ok (.signed (-n)) else .error "number too small to fit in target type"
  else if n < signedSize then .ok (.signed n)
  else .error "number too large to fit in target type"

/-- A whole number in another base, after its mark. -/
def inBase (base : Nat) (mark name : String) : Reads Datum :=
  settle <| judged (fun ds => signed? false ((Text.valueIn? base ds).getD 0)) <|
    inside name do
      literal mark
      settle (digitRun fun c => (Text.hexDigit? c).any (· < base))

/-- A whole number. -/
def integer : Reads Datum := do
  if ← sees "0x" then inBase 16 "0x" "hexadecimal integer"
  else if ← sees "0o" then inBase 8 "0o" "octal integer"
  else if ← sees "0b" then inBase 2 "0b" "binary integer"
  else fun cs =>
    match decimal cs with
    | .error e => .error e
    | .ok ((negative, ds), rest) =>
      match signed? negative (Text.value ds) with
      | .ok d => .ok (d, rest)
      | .error cause => .error { rest := cs, cause := some cause, settled := true }

/-- The exponent of a number. -/
def exponent : Reads Int := do
  let _ ← oneOf fun c => c == 'e' || c == 'E'
  let negative ← sign
  let ds ← settle (digitRun Char.isDigit)
  return if negative then -(Text.value ds : Int) else Text.value ds

/-- The digits behind a point, with the point. -/
def places : Reads (List Char) := do
  char '.'
  settle (expecting ["digit"] (digitRun Char.isDigit))

/-- A number with a fraction, an exponent or both, as it is shown. Too great a number is refused. -/
def finite : Reads Datum := fun cs =>
  match parts cs with
  | .error e => .error e
  | .ok (((negative, whole), part, e), rest) =>
    let shown (digits : List Char) : Datum :=
      .fraction (String.ofList (if negative then '-' :: digits else digits))
    match Binary64.ofDecimal? (Text.value (whole ++ part)) (e - part.length) with
    | some x => .ok (shown x.plainText, rest)
    | none =>
      if negative then .ok (shown ['i', 'n', 'f'], rest)
      else .error { rest := cs, settled := true }
where
  /-- The sign and the digits before the point, the digits behind it, and the exponent. -/
  parts : Reads ((Bool × List Char) × List Char × Int) := do
    let whole ← decimal
    let tail ← orElse ((fun e => ([], e)) <$> exponent) (do
      let part ← places
      let e ← optional exponent
      return (part, e.getD 0))
    return (whole, tail)

/-- Infinity. -/
def infinite (negative : Bool) : Reads Datum := do
  literal "inf"
  return .fraction (if negative then "-inf" else "inf")

/-- Not a number. -/
def notANumber : Reads Datum := do
  literal "nan"
  return .fraction "NaN"

/-- A number that is no whole one. -/
def fraction : Reads Datum :=
  inside "floating-point number" <|
    orElse finite (do
      let negative ← sign
      orElse (infinite negative) notANumber)

/-! ### Dates and times -/

/-- A number of two digits in a range. -/
def twoDigits (low high : Nat) : Reads Nat :=
  judged (fun ds =>
    let n := Text.value ds
    if low ≤ n ∧ n ≤ high then .ok n else .error outOfRange) (takeExactly Char.isDigit 2)

/-- The number of days in a month. -/
def daysIn (year month : Nat) : Nat :=
  if month = 2 then
    if year % 4 = 0 ∧ (year % 100 ≠ 0 ∨ year % 400 = 0) then 29 else 28
  else if month = 4 ∨ month = 6 ∨ month = 9 ∨ month = 11 then 30
  else 31

/-- A date. -/
def date : Reads Unit := do
  let year ← takeExactly Char.isDigit 4
  char '-'
  settle do
    let month ← twoDigits 1 12
    char '-'
    let _ ← judged (fun day =>
      if day ≤ daysIn (Text.value year) month then .ok day else .error outOfRange) (twoDigits 1 31)

/-- A time of day. -/
def time : Reads Unit := do
  let _ ← twoDigits 0 23
  char ':'
  settle do
    let _ ← twoDigits 0 59
    char ':'
    let _ ← twoDigits 0 60
    let _ ← optional (do char '.'; let _ ← takeSome Char.isDigit)

/-- The distance from universal time. -/
def offset : Reads Unit :=
  inside "time offset" <|
    orElse (do let _ ← oneOf fun c => c == 'Z' || c == 'z') (do
      let _ ← oneOf fun c => c == '+' || c == '-'
      settle do
        let _ ← twoDigits 0 23
        char ':'
        let _ ← twoDigits 0 59)

/-- A date, a time, or a date with a time, as it is written. It is a table with a name of its
own. -/
def moment : Reads Datum := fun cs =>
  match form cs with
  | .error e => .error e
  | .ok (_, rest) =>
    let written := String.ofList (cs.take (cs.length - rest.length))
    .ok (.table [("$__toml_private_datetime", .text written)], rest)
where
  /-- The forms of a moment. -/
  form : Reads Unit :=
    orElse
      (inside "date-time" do
        date
        let _ ← optional (do
          let _ ← oneOf fun c => c == 'T' || c == 't' || c == ' '
          time
          optional offset))
      (inside "time" time)

end DataGovernance.Toml
