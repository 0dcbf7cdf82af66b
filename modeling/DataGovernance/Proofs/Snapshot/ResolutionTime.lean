import DataGovernance.Summary
import Mathlib.Tactic.SplitIfs

/-!
# Issues that were resolved before they were created

The time from the creation of an issue to its resolution is taken in whole seconds, a fraction being
dropped, and an issue counts in the mean time to resolution unless that number is negative. So an
issue that was resolved before it was created does not count if that was a second or more before.
Resolved within the last second before it was created, it counts like one that was resolved at once.

Key definition: `Time.Timestamp.Before`.
Key theorem: `averageResolutionDays_insert_iff`.
-/

namespace DataGovernance

namespace Time.Timestamp

variable {t u : Timestamp}

/-- One point in time comes before another: on an earlier day, or on the same day at an earlier
second, or earlier within the same second. -/
def Before (t u : Timestamp) : Prop :=
  t.date.dayNumber < u.date.dayNumber ∨
    t.date.dayNumber = u.date.dayNumber ∧
      (t.second < u.second ∨ t.second = u.second ∧ t.nano < u.nano)

/-- A point in time is less than a second after any that it comes before. It can be after one at
all only from within the leap second at the end of a day. -/
theorem Before.nanosSince_lt (h : t.Before u) : t.nanosSince u < secondNanos := by
  have hsecond := t.second_lt
  have hnano := t.nano_lt
  unfold Before at h
  unfold nanosSince leapBetween
  simp only [daySeconds, secondNanos] at *
  split_ifs <;> omega

/-- A second back is a negative number of whole seconds. -/
theorem secondsSince_neg (h : t.nanosSince u ≤ -secondNanos) : t.secondsSince u < 0 := by
  have hpos : (0 : Int) < secondNanos := by decide
  have hle : (t.nanosSince u).tdiv secondNanos ≤ (-(secondNanos : Int)).tdiv secondNanos :=
    Int.tdiv_le_tdiv hpos h
  rw [Int.neg_tdiv, Int.tdiv_self (Int.ne_of_gt hpos)] at hle
  exact Int.lt_of_le_of_lt hle (by decide)

/-- Less than a second in either direction is no whole second. -/
theorem secondsSince_eq_zero (h : -secondNanos < t.nanosSince u)
    (h' : t.nanosSince u < secondNanos) : t.secondsSince u = 0 := by
  have hlt : (t.nanosSince u).natAbs < secondNanos := by omega
  rw [secondsSince, ← Int.natAbs_eq_zero, Int.natAbs_tdiv]
  exact Nat.div_eq_of_lt hlt

theorem secondsSince_self (t : Timestamp) : t.secondsSince t = 0 := by
  simp [secondsSince, nanosSince, leapBetween]

end Time.Timestamp

open Time

variable {i j : Issue} {t : Timestamp}

/-! ### Which issues count -/

/-- An issue that was resolved a second or more before it was created does not count. -/
theorem Issue.resolutionSeconds?_eq_none (ht : i.resolvedAt = some t)
    (h : t.nanosSince i.createdAt ≤ -secondNanos) : i.resolutionSeconds? = none := by
  have hneg := Timestamp.secondsSince_neg h
  simp only [resolutionSeconds?, ht]
  exact if_neg (by omega)

/-- An issue that was resolved within the last second before it was created counts with no time. -/
theorem Issue.resolutionSeconds?_eq_zero (ht : i.resolvedAt = some t)
    (hb : t.Before i.createdAt) (h : -secondNanos < t.nanosSince i.createdAt) :
    i.resolutionSeconds? = some 0 := by
  have hzero := Timestamp.secondsSince_eq_zero h hb.nanosSince_lt
  simp [resolutionSeconds?, ht, hzero]

/-- So does one that was resolved at the moment of its creation. -/
theorem Issue.resolutionSeconds?_at_once (i : Issue) :
    { i with resolvedAt := some i.createdAt }.resolutionSeconds? = some 0 := by
  simp [resolutionSeconds?, Timestamp.secondsSince_self]

/-! ### The mean time to resolution -/

/-- The mean time to resolution leaves out an issue that does not count. -/
theorem averageResolutionDays_of_none (h : i.resolutionSeconds? = none) (front back : List Issue) :
    averageResolutionDays (front ++ i :: back) = averageResolutionDays (front ++ back) := by
  simp only [averageResolutionDays, List.filterMap_append, List.filterMap_cons, h]

/-- The mean time to resolution cannot tell issues with the same time apart. -/
theorem averageResolutionDays_congr (h : i.resolutionSeconds? = j.resolutionSeconds?)
    (front back : List Issue) :
    averageResolutionDays (front ++ i :: back) = averageResolutionDays (front ++ j :: back) := by
  simp only [averageResolutionDays, List.filterMap_append, List.filterMap_cons, h]

/-- An issue that was resolved two days after it was created. -/
def resolvedInTwoDays : Issue where
  id := "1"
  title := ""
  severity := .low
  status := .closed
  createdAt := .epoch
  resolvedAt := some { Timestamp.epoch with
    date := { Timestamp.epoch.date with
      day := 3
      day_mem := by decide } }

/-- An issue that counts with no time halves a mean of two days. -/
theorem averageResolutionDays_halved (h : i.resolutionSeconds? = some 0) :
    averageResolutionDays [i, resolvedInTwoDays] = 1 := by
  have htwo : resolvedInTwoDays.resolutionSeconds? = some (2 * daySeconds) := by decide
  simp only [averageResolutionDays, List.filterMap_cons, List.filterMap_nil, h, htwo]
  decide

/-- **An issue that was resolved before it was created is left out from a second on.** Wherever such
an issue stands in a list, the mean time to resolution is the one without it, exactly when it was
resolved a second or more before it was created. Otherwise the mean is the one with an issue that
was resolved at the moment of its creation. -/
theorem averageResolutionDays_insert_iff (ht : i.resolvedAt = some t) (hb : t.Before i.createdAt) :
    ((∀ front back,
        averageResolutionDays (front ++ i :: back) = averageResolutionDays (front ++ back)) ↔
      t.nanosSince i.createdAt ≤ -secondNanos) ∧
    (-secondNanos < t.nanosSince i.createdAt → ∀ front back,
      averageResolutionDays (front ++ i :: back) =
        averageResolutionDays (front ++ { i with resolvedAt := some i.createdAt } :: back)) := by
  refine ⟨⟨fun hall => ?_, fun h => ?_⟩, fun h => ?_⟩
  · refine Int.not_lt.1 fun hlate => ?_
    have hzero := Issue.resolutionSeconds?_eq_zero ht hb hlate
    have hsame := hall [] [resolvedInTwoDays]
    rw [List.nil_append, averageResolutionDays_halved hzero] at hsame
    exact absurd hsame (by decide)
  · exact averageResolutionDays_of_none (Issue.resolutionSeconds?_eq_none ht h)
  · refine averageResolutionDays_congr ?_
    rw [Issue.resolutionSeconds?_eq_zero ht hb h, Issue.resolutionSeconds?_at_once]

/-- Half a second after midnight. -/
def halfPast : Timestamp := { Timestamp.epoch with
  nano := 500000000
  nano_lt := by decide
  leap_last := by decide }

/-- An issue that was resolved half a second before it was created. -/
def resolvedEarly : Issue where
  id := "2"
  title := ""
  severity := .low
  status := .closed
  createdAt := halfPast
  resolvedAt := some .epoch

/-- Not every issue that was resolved before it was created is left out. -/
theorem not_averageResolutionDays_insert :
    ¬∀ (i : Issue) (t : Timestamp), i.resolvedAt = some t → t.Before i.createdAt →
      ∀ front back,
        averageResolutionDays (front ++ i :: back) = averageResolutionDays (front ++ back) := by
  intro h
  have hbefore : Timestamp.epoch.Before halfPast := .inr ⟨rfl, .inr ⟨rfl, by decide⟩⟩
  have hsame := h resolvedEarly .epoch rfl hbefore [] [resolvedInTwoDays]
  exact absurd hsame (by decide)

/-- An issue that was resolved half a day before it was created. -/
def resolvedTheNightBefore : Issue := { resolvedEarly with
  createdAt := { Timestamp.epoch with
    second := 43200
    second_lt := by decide
    leap_last := by decide } }

theorem averageResolutionDays_insert_iff_night :
    resolvedTheNightBefore.resolvedAt = some .epoch ∧
      Timestamp.epoch.Before resolvedTheNightBefore.createdAt ∧
      averageResolutionDays [resolvedTheNightBefore, resolvedInTwoDays] =
        averageResolutionDays [resolvedInTwoDays] := by
  have hbefore : Timestamp.epoch.Before resolvedTheNightBefore.createdAt :=
    .inr ⟨rfl, .inl (by decide)⟩
  exact ⟨rfl, hbefore, (averageResolutionDays_insert_iff rfl hbefore).1.2 (by decide) [] _⟩

end DataGovernance
