import DataGovernance.Proofs.Rounding.HalfUp
import DataGovernance.Proofs.Rounding.Words
import DataGovernance.Proofs.Time.Span
import DataGovernance.Summary
import Mathlib.Tactic.NormNum

/-!
# The mean time to resolution is exact

The mean time to resolution doubles a sum of seconds over all issues. No issue takes as long as the
calendar lasts, so for up to half a million issues twice the sum has 64 bits, and the mean is a
number of days that the calendar has. Then it is the rational mean, rounded a half upwards.

Key definitions: `resolutionSpans`, `Count.meanDays?`, `Count.averageResolutionDays?`.
Key theorems: `Issue.resolutionSeconds?_le`, `total_resolutionSeconds_le`,
`averageResolutionDays_exact`.
-/

namespace DataGovernance

open Time

/-- The times from creation to resolution in seconds, a fraction being dropped, of the issues that
have been resolved, as far as they are not negative. -/
def resolutionSpans (issues : List Issue) : List Int :=
  (issues.filterMap fun i =>
    i.resolvedAt.map fun t => (t.nanosSince i.createdAt).tdiv secondNanos).filter (0 ≤ ·)

/-- The mean of seconds in days with numbers of 64 bits, if every number on the way has 64 bits. -/
def Count.meanDays? (spans : List Nat) : Option Count := do
  let sum ← sum? spans
  let length ← ofNat? spans.length
  let day ← ofNat? daySeconds
  roundHalfUp? sum (← mul? length day)

/-- The mean time to resolution in days with numbers of 64 bits. -/
def Count.averageResolutionDays? (issues : List Issue) : Option Count :=
  meanDays? (issues.filterMap Issue.resolutionSeconds?)

/-! ### The seconds of the issues -/

theorem Issue.map_resolutionSeconds? (i : Issue) :
    i.resolutionSeconds?.map Int.ofNat =
      (i.resolvedAt.map fun t => (t.nanosSince i.createdAt).tdiv secondNanos).filter (0 ≤ ·) := by
  unfold resolutionSeconds?
  cases i.resolvedAt with
  | none => rfl
  | some t =>
    show (if 0 ≤ t.secondsSince i.createdAt then some (t.secondsSince i.createdAt).toNat
      else none).map Int.ofNat = (some (t.secondsSince i.createdAt)).filter (0 ≤ ·)
    by_cases hsign : 0 ≤ t.secondsSince i.createdAt
    · rw [if_pos hsign, Option.filter_some, if_pos (decide_eq_true hsign), Option.map_some,
        Int.ofNat_eq_natCast, Int.toNat_of_nonneg hsign]
    · rw [if_neg hsign, Option.filter_some, if_neg (by simpa using hsign)]
      rfl

theorem resolutionSpans_eq (issues : List Issue) :
    resolutionSpans issues = (issues.filterMap Issue.resolutionSeconds?).map Int.ofNat := by
  rw [resolutionSpans, List.filter_filterMap, List.map_filterMap]
  exact List.filterMap_congr fun i _ => (Issue.map_resolutionSeconds? i).symm

theorem sum_map_ofNat (ns : List Nat) : (ns.map Int.ofNat).sum = (total ns : Nat) := by
  induction ns with
  | nil => rfl
  | cons n ns ih =>
    rw [List.map_cons, List.sum_cons, ih, total_cons, Nat.cast_add]
    rfl

/-- No issue takes as long as the calendar lasts. -/
theorem Issue.resolutionSeconds?_le {i : Issue} {n : Nat} (h : i.resolutionSeconds? = some n) :
    n ≤ daysBound * daySeconds := by
  have hspan := i.map_resolutionSeconds?
  rw [h, Option.map_some] at hspan
  obtain ⟨hmap, _⟩ := Option.filter_eq_some_iff.1 hspan.symm
  obtain ⟨t, _, ht : t.secondsSince i.createdAt = n⟩ := Option.map_eq_some_iff.1 hmap
  have hlast := Timestamp.secondsSince_le t i.createdAt
  omega

theorem total_resolutionSeconds_le (issues : List Issue) :
    total (issues.filterMap Issue.resolutionSeconds?) ≤
      (issues.filterMap Issue.resolutionSeconds?).length * (daysBound * daySeconds) := by
  induction issues with
  | nil => exact Nat.zero_le _
  | cons i issues ih =>
    rcases hseconds : i.resolutionSeconds? with _ | n
    · rwa [List.filterMap_cons_none hseconds]
    · have hle := Issue.resolutionSeconds?_le hseconds
      rw [List.filterMap_cons_some hseconds, total_cons, List.length_cons, Nat.succ_mul]
      omega

/-! ### The mean -/

/-- The mean time to resolution never needs to be cut to 32 bits. -/
theorem averageResolutionDays_eq_roundHalfUp (issues : List Issue) :
    averageResolutionDays issues =
      roundHalfUp (total (issues.filterMap Issue.resolutionSeconds?))
        ((issues.filterMap Issue.resolutionSeconds?).length * daySeconds) := by
  have htotal := total_resolutionSeconds_le issues
  have hle : roundHalfUp (total (issues.filterMap Issue.resolutionSeconds?))
      ((issues.filterMap Issue.resolutionSeconds?).length * daySeconds) ≤ daysBound := by
    refine roundHalfUp_le (Nat.le_trans htotal (Nat.le_of_eq ?_))
    ring
  exact Nat.min_eq_left (Nat.le_trans hle (by decide))

/-- Half a million times what the calendar lasts, doubled, has 64 bits. -/
theorem steps_lt_wordSize {issues : List Issue} (h : issues.length ≤ 500000) :
    2 * total (issues.filterMap Issue.resolutionSeconds?) +
        (issues.filterMap Issue.resolutionSeconds?).length * daySeconds < wordSize ∧
      2 * ((issues.filterMap Issue.resolutionSeconds?).length * daySeconds) < wordSize := by
  have htotal := total_resolutionSeconds_le issues
  have hlength : (issues.filterMap Issue.resolutionSeconds?).length ≤ 500000 :=
    Nat.le_trans (List.length_filterMap_le _ _) h
  simp only [daysBound, daySeconds, wordSize] at *
  omega

theorem Count.meanDays?_eq_ofNat? {spans : List Nat}
    (habove : 2 * total spans + spans.length * daySeconds < wordSize)
    (hbelow : 2 * (spans.length * daySeconds) < wordSize) :
    meanDays? spans = ofNat? (roundHalfUp (total spans) (spans.length * daySeconds)) := by
  have hday : daySeconds < wordSize := by decide
  have hproduct : spans.length * daySeconds < wordSize := by omega
  have hlength : spans.length < wordSize :=
    Nat.lt_of_le_of_lt (Nat.le_mul_of_pos_right _ (by decide)) hproduct
  have hsum : total spans < wordSize := by omega
  rw [meanDays?, sum?_eq_ofNat?, ofNat?_of_lt hsum, Option.bind_eq_bind, Option.bind_some,
    ofNat?_of_lt hlength, Option.bind_some, ofNat?_of_lt hday, Option.bind_some,
    mul?_of_lt hlength hday hproduct, Option.bind_some]
  exact roundHalfUp?_eq_ofNat? hsum hproduct habove hbelow

theorem Count.averageResolutionDays?_eq_ofNat? {issues : List Issue}
    (h : issues.length ≤ 500000) :
    averageResolutionDays? issues = ofNat? (averageResolutionDays issues) := by
  obtain ⟨habove, hbelow⟩ := steps_lt_wordSize h
  rw [averageResolutionDays_eq_roundHalfUp]
  exact meanDays?_eq_ofNat? habove hbelow

/-- **The mean time to resolution is exact for up to half a million issues.** The sum of the
seconds, twice that sum with the divisor, and twice the divisor all have 64 bits, so the mean is
found with 64 bits, and it is not cut to 32. It is 0 if no issue counts, and otherwise the rational
mean in days, rounded a half upwards. -/
theorem averageResolutionDays_exact (issues : List Issue) (h : issues.length ≤ 500000) :
    ((resolutionSpans issues).sum < 2 ^ 64 ∧
      2 * (resolutionSpans issues).sum + daySeconds * (resolutionSpans issues).length < 2 ^ 64 ∧
      2 * (daySeconds * (resolutionSpans issues).length) < 2 ^ 64) ∧
    (∃ c, Count.averageResolutionDays? issues = some c ∧ c.val < 2 ^ 32 ∧
      averageResolutionDays issues = c.val) ∧
    (resolutionSpans issues = [] → averageResolutionDays issues = 0) ∧
    (resolutionSpans issues ≠ [] → (averageResolutionDays issues : Int) =
      ⌊((resolutionSpans issues).sum : ℚ) / (daySeconds * (resolutionSpans issues).length) +
        1 / 2⌋) := by
  obtain ⟨habove, hbelow⟩ := steps_lt_wordSize h
  have hchecked := Count.averageResolutionDays?_eq_ofNat? h
  have hcut : averageResolutionDays issues ≤ maxFigure := Nat.min_le_right _ _
  have hfits : averageResolutionDays issues < wordSize := Nat.lt_of_le_of_lt hcut (by decide)
  have hmean := averageResolutionDays_eq_roundHalfUp issues
  rw [resolutionSpans_eq, sum_map_ofNat, List.length_map]
  generalize issues.filterMap Issue.resolutionSeconds? = spans at *
  refine ⟨?_, ⟨⟨_, hfits⟩, hchecked.trans (Count.ofNat?_of_lt hfits), ?_, rfl⟩, ?_, ?_⟩
  · simp only [daySeconds, wordSize] at habove hbelow ⊢
    omega
  · exact Nat.lt_succ_of_le hcut
  · intro hnone
    rw [hmean, List.map_eq_nil_iff.1 hnone]
    rfl
  · intro hsome
    have hpos : 0 < spans.length := by
      refine List.length_pos_iff.2 fun hnone => hsome ?_
      rw [hnone]
      rfl
    rw [hmean, roundHalfUp_eq_floor (Nat.mul_pos hpos (by decide))]
    push_cast
    rw [mul_comm (daySeconds : ℚ)]

/-- An issue that was resolved some days after it was created, in the same month. -/
def resolvedAfter (days : Nat) (h : days < daysInMonth 1970 1) : Issue where
  id := "1"
  title := ""
  severity := .low
  status := .closed
  createdAt := .epoch
  resolvedAt := some { Timestamp.epoch with
    date := { Timestamp.epoch.date with
      day := days + 1
      day_mem := ⟨Nat.le_add_left 1 days, h⟩ } }

/-- Two issues, of which one took a day and the other two days. -/
def oneDayAndTwo : List Issue := [resolvedAfter 1 (by decide), resolvedAfter 2 (by decide)]

theorem averageResolutionDays_exact_oneDayAndTwo :
    oneDayAndTwo.length ≤ 500000 ∧ resolutionSpans oneDayAndTwo = [86400, 172800] ∧
      averageResolutionDays oneDayAndTwo = 2 := by
  have hspans : resolutionSpans oneDayAndTwo = [86400, 172800] := by decide
  obtain ⟨_, _, _, hmean⟩ := averageResolutionDays_exact oneDayAndTwo (by decide)
  rw [hspans] at hmean
  have hfloor : ⌊(([86400, 172800] : List Int).sum : ℚ) /
      (daySeconds * ([86400, 172800] : List Int).length) + 1 / 2⌋ = 2 := by
    rw [Int.floor_eq_iff]
    norm_num [daySeconds]
  refine ⟨by decide, hspans, ?_⟩
  exact Int.ofNat_inj.1 ((hmean (by decide)).trans hfloor)

end DataGovernance
