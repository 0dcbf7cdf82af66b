import DataGovernance.Time.Timestamp
import Mathlib.Tactic.SplitIfs

/-!
# How far apart two points in time can be

The calendar has fewer than two hundred million days, so no two points in time are that many days
apart, whatever leap seconds lie between them.

Key definition: `daysBound`.
Key theorems: `Date.dayNumber_bounds`, `Timestamp.secondsSince_le`.
-/

namespace DataGovernance.Time

/-- More days than the calendar has. -/
def daysBound : Nat := 200000000

namespace Date

theorem daysInMonth_le (year : Int) (month : Nat) : daysInMonth year month ≤ 31 := by
  unfold daysInMonth
  split_ifs <;> omega

/-- The first of a month is at most the 342nd day of its year. -/
theorem daysBeforeMonth_le {month : Nat} (h : month ≤ 12) (year : Int) :
    daysBeforeMonth year month ≤ 341 := by
  have htotal := total_map_le (List.range (month - 1)) fun m => daysInMonth_le year (m + 1)
  rw [List.length_range] at htotal
  exact Nat.le_trans htotal (by omega)

/-- The days of the calendar lie within a hundred million days of the beginning of year 1. -/
theorem dayNumber_bounds (d : Date) : -100000000 < d.dayNumber ∧ d.dayNumber < 99999999 := by
  have hyear := d.year_mem
  have hmonth := daysBeforeMonth_le d.month_mem.2 d.year
  have hday := Nat.le_trans d.day_mem.2 (daysInMonth_le d.year d.month)
  unfold dayNumber daysBeforeYear
  simp only [minYear, maxYear] at hyear
  omega

end Date

namespace Timestamp

/-- No point in time is `daysBound` days after another. -/
theorem nanosSince_le (t u : Timestamp) :
    t.nanosSince u ≤ (daysBound * daySeconds : Nat) * secondNanos := by
  have hto := t.date.dayNumber_bounds
  have hfrom := u.date.dayNumber_bounds
  have hsecond := t.second_lt
  have hnano := t.nano_lt
  unfold nanosSince leapBetween
  simp only [daysBound, daySeconds, secondNanos] at *
  split_ifs <;> omega

theorem secondsSince_le (t u : Timestamp) : t.secondsSince u ≤ (daysBound * daySeconds : Nat) := by
  have hpos : (0 : Int) < secondNanos := by decide
  calc t.secondsSince u
      ≤ (((daysBound * daySeconds : Nat) : Int) * secondNanos).tdiv secondNanos :=
        Int.tdiv_le_tdiv hpos (nanosSince_le t u)
    _ = (daysBound * daySeconds : Nat) := Int.mul_tdiv_cancel _ (Int.ne_of_gt hpos)

end Timestamp

end DataGovernance.Time
