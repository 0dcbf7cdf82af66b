import DataGovernance.Count
import DataGovernance.Text.Blank
import DataGovernance.Text.Bytes
import DataGovernance.Text.Digits
import DataGovernance.Time.Timestamp

/-!
# Timestamps as text

A timestamp is written in universal time, such as `2026-07-01T09:00:00Z`, with as few as possible of
0, 3, 6 or 9 digits behind the second. A year past 9999 or below 0 has a sign.

Reading is more lenient than RFC 3339: `T` may be `t` or a space, numbers may be short, blanks may
stand between the parts and around the whole, and the offset is `Z`, `z`, `UTC` in any case, or a
signed number of hours and minutes with any colons and blanks between them. The minus sign U+2212
counts as one. Fraction digits behind the ninth are dropped, and second 60 is a leap second.

Key definitions: `write`, `read`, `ReadError`.
-/

namespace DataGovernance.Time

open DataGovernance.Text

/-! ### Writing -/

/-- A year, of four digits or with a sign. -/
def writeYear (year : Int) : List Char :=
  if 0 ≤ year ∧ year ≤ 9999 then padded 4 year.toNat
  else (if year < 0 then '-' else '+') :: padded 4 year.natAbs

/-- The nanoseconds of a second, in thousands of each other as far as they are needed. -/
def writeFraction (nano : Nat) : List Char :=
  if nano = 0 then []
  else if nano % 1000000 = 0 then '.' :: padded 3 (nano / 1000000)
  else if nano % 1000 = 0 then '.' :: padded 6 (nano / 1000)
  else '.' :: padded 9 nano

/-- A timestamp in universal time. -/
def write (t : Timestamp) : List Char :=
  let leap := secondNanos ≤ t.nano
  writeYear t.date.year ++ '-' :: padded 2 t.date.month ++ '-' :: padded 2 t.date.day ++
    'T' :: padded 2 (t.second / 3600) ++ ':' :: padded 2 (t.second / 60 % 60) ++
    ':' :: padded 2 (t.second % 60 + if leap then 1 else 0) ++
    writeFraction (if leap then t.nano - secondNanos else t.nano) ++ ['Z']

/-! ### Reading -/

/-- The ways in which a text can fail to be a timestamp. -/
inductive ReadError where
  | tooShort
  | invalid
  | outOfRange
  | tooLong
  | impossible
  deriving DecidableEq, Repr

/-- The wording of a reading error. -/
def ReadError.message : ReadError → String
  | tooShort => "premature end of input"
  | invalid => "input contains invalid characters"
  | outOfRange => "input is out of range"
  | tooLong => "trailing input"
  | impossible => "no possible date and time matching input"

/-- The error of a reader that wants another character. -/
def unexpected : List Char → ReadError
  | [] => .tooShort
  | _ => .invalid

/-- Reads a run of at least one digit, of at most `width` digits where a width is given. -/
def readDigits (width : Option Nat) (cs : List Char) : Except ReadError (Nat × List Char) :=
  let run := cs.takeWhile Char.isDigit
  let ds := match width with
    | some w => run.take w
    | none => run
  if ds = [] then .error (unexpected cs)
  else if signedSize ≤ value ds then .error .outOfRange
  else .ok (value ds, cs.drop ds.length)

/-- Reads a character that has to come next, after blanks. -/
def readMark (mark : Char) (cs : List Char) : Except ReadError (List Char) :=
  match trimStart cs with
  | c :: rest => if c = mark then .ok rest else .error .invalid
  | [] => .error .tooShort

/-- Reads one or two digits after blanks, as a number that lies within bounds. -/
def readPart (low high : Nat) (cs : List Char) : Except ReadError (Nat × List Char) := do
  let (n, rest) ← readDigits (some 2) (trimStart cs)
  if low ≤ n ∧ n ≤ high then .ok (n, rest) else .error .outOfRange

/-- Reads a year after blanks: up to four digits, or a sign and any number of them. -/
def readYear (cs : List Char) : Except ReadError (Int × List Char) := do
  let (year, rest) ← match trimStart cs with
    | '-' :: cs => (readDigits none cs).map fun (n, rest) => (-(n : Int), rest)
    | '+' :: cs => (readDigits none cs).map fun (n, rest) => ((n : Int), rest)
    | cs => (readDigits (some 4) cs).map fun (n, rest) => ((n : Int), rest)
  if -2147483648 ≤ year ∧ year < 2147483648 then .ok (year, rest) else .error .outOfRange

/-- Reads the digits behind a point, if there is one, as nanoseconds. -/
def readFraction : List Char → Except ReadError (Nat × List Char)
  | '.' :: cs => do
    let (n, rest) ← readDigits (some 9) cs
    .ok (n * Nat.pow 10 (9 - (cs.length - rest.length)), rest.dropWhile Char.isDigit)
  | cs => .ok (0, cs)

/-- Reads two digits that stand for a number below `high + 1`, where a number of two digits above
that is out of range. -/
def readPair (high : Nat) (cs : List Char) : Except ReadError (Nat × List Char) :=
  match cs with
  | a :: b :: rest =>
    if a.isDigit ∧ b.isDigit then
      if value [a, b] ≤ high then .ok (value [a, b], rest) else .error .outOfRange
    else .error .invalid
  | cs => .error (if byteSize cs < 2 then .tooShort else .invalid)

/-- Whether a character may stand between the hours and minutes of an offset. -/
def isOffsetMark (c : Char) : Bool := c == ':' || isBlankChar c

/-- Reads the hours and minutes of an offset, as minutes. -/
def readHoursMinutes (cs : List Char) : Except ReadError (Int × List Char) := do
  let (hours, rest) ← readPair 99 cs
  let (minutes, rest) ← readPair 59 (rest.dropWhile isOffsetMark)
  .ok (hours * 60 + minutes, rest)

/-- Whether two characters are the same up to the case of an English letter. -/
def sameLetter (a b : Char) : Bool := a.toLower == b.toLower

/-- Reads an offset from universal time, in minutes. -/
def readOffset (cs : List Char) : Except ReadError (Int × List Char) :=
  match cs with
  | 'Z' :: rest => .ok (0, rest)
  | 'z' :: rest => .ok (0, rest)
  | '+' :: rest => readHoursMinutes rest
  | '-' :: rest => (readHoursMinutes rest).map fun (m, rest) => (-m, rest)
  | '\u2212' :: rest => (readHoursMinutes rest).map fun (m, rest) => (-m, rest)
  | a :: b :: c :: rest =>
    if sameLetter a 'U' && sameLetter b 'T' && sameLetter c 'C' then .ok (0, rest)
    else .error .invalid
  | cs => .error (unexpected cs)

/-- Reads the character between a date and a time of day. -/
def readSeparator : List Char → Except ReadError (List Char)
  | 'T' :: rest => .ok rest
  | 't' :: rest => .ok rest
  | ' ' :: rest => .ok rest
  | cs => .error (unexpected cs)

/-- The timestamp of a clock reading, where second 60 is the leap second behind second 59. -/
def assemble (year : Int) (month day hour minute second nano : Nat) (offset : Int) :
    Except ReadError Timestamp :=
  match Date.ofParts? year month day with
  | none => .error .outOfRange
  | some date =>
    let leap := second = 60
    let ofDay := hour * 3600 + minute * 60 + if leap then 59 else second
    if offset.natAbs < 24 * 60 then
      match Timestamp.ofLocal? date ofDay (if leap then nano + secondNanos else nano) offset with
      | some t => .ok t
      | none => .error .impossible
    else .error .outOfRange

/-- Reads a timestamp. -/
def read (cs : List Char) : Except ReadError Timestamp := do
  let (year, cs) ← readYear cs
  let cs ← readMark '-' cs
  let (month, cs) ← readPart 1 12 cs
  let cs ← readMark '-' cs
  let (day, cs) ← readPart 1 31 cs
  let cs ← readSeparator cs
  let (hour, cs) ← readPart 0 23 cs
  let cs ← readMark ':' cs
  let (minute, cs) ← readPart 0 59 cs
  let cs ← readMark ':' cs
  let (second, cs) ← readPart 0 60 cs
  let (nano, cs) ← readFraction cs
  let (offset, cs) ← readOffset (trimStart cs)
  if trimStart cs = [] then assemble year month day hour minute second nano offset
  else .error .tooLong

end DataGovernance.Time
