import DataGovernance.Time.Date

/-!
# Points in time

A timestamp is a second of a day in universal time with nanoseconds. A leap second is the second
before it going on for another thousand million nanoseconds, so it can only follow the last second
of a minute.

Key definitions: `Timestamp`, `Timestamp.ofLocal?`, `Timestamp.secondsSince`.
-/

namespace DataGovernance.Time

/-- The seconds of a day. -/
def daySeconds : Nat := 86400

/-- The nanoseconds of a second. -/
def secondNanos : Nat := 1000000000

/-- A point in universal time. -/
structure Timestamp where
  date : Date
  /-- The second of the day. -/
  second : Nat
  /-- The nanoseconds behind that second, a full second or more within a leap second. -/
  nano : Nat
  second_lt : second < daySeconds
  nano_lt : nano < 2 * secondNanos
  leap_last : secondNanos ≤ nano → second % 60 = 59
  deriving DecidableEq, Repr

namespace Timestamp

/-- The timestamp with the given parts, if they fit together. -/
def ofParts? (date : Date) (second nano : Nat) : Option Timestamp :=
  if h : second < daySeconds ∧ nano < 2 * secondNanos ∧
      (secondNanos ≤ nano → second % 60 = 59) then
    some ⟨date, second, nano, h.1, h.2.1, h.2.2⟩
  else none

/-- The same point in time for a clock that is `offset` minutes ahead of universal time and shows
the given date, second and nanoseconds; none if that is not in the calendar. -/
def ofLocal? (date : Date) (second nano : Nat) (offset : Int) : Option Timestamp :=
  let shifted : Int := second - 60 * offset
  if shifted < 0 then do
    let date ← date.previous?
    ofParts? date (shifted + daySeconds).toNat nano
  else if daySeconds ≤ shifted then do
    let date ← date.next?
    ofParts? date (shifted - daySeconds).toNat nano
  else ofParts? date shifted.toNat nano

/-- The leap second between two times of day that the seconds of the day do not count. -/
def leapBetween (t u : Timestamp) : Int :=
  if u.second < t.second ∧ secondNanos ≤ u.nano then 1
  else if t.second < u.second ∧ secondNanos ≤ t.nano then -1
  else 0

/-- The nanoseconds from `u` to `t`. -/
def nanosSince (t u : Timestamp) : Int :=
  ((t.date.dayNumber - u.date.dayNumber) * daySeconds + (t.second - u.second) + leapBetween t u) *
    secondNanos + (t.nano - u.nano)

/-- The whole seconds from `u` to `t`, a fraction being dropped. -/
def secondsSince (t u : Timestamp) : Int := (nanosSince t u).tdiv secondNanos

/-- The beginning of the year 1970. -/
def epoch : Timestamp :=
  ⟨⟨1970, 1, 1, by decide, by decide, by decide⟩, 0, 0, by decide, by decide, by decide⟩

/-- The timestamp a number of nanoseconds after the beginning of the year 1970, leap seconds not
counted. -/
def afterEpoch? (nanos : Nat) : Option Timestamp := do
  let seconds := nanos / secondNanos
  let date ← epoch.date.plus? (seconds / daySeconds)
  ofParts? date (seconds % daySeconds) (nanos % secondNanos)

theorem ofParts?_self (t : Timestamp) : ofParts? t.date t.second t.nano = some t := by
  simp [ofParts?, t.second_lt, t.nano_lt]
  exact t.leap_last

/-- A clock that shows universal time. -/
theorem ofLocal?_self (t : Timestamp) : ofLocal? t.date t.second t.nano 0 = some t := by
  have h := t.second_lt
  simp only [ofLocal?]
  rw [if_neg (by omega), if_neg (by omega)]
  simpa using ofParts?_self t

end Timestamp

end DataGovernance.Time
