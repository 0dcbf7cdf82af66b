import DataGovernance.Time.Rfc3339
import Mathlib.Tactic.SplitIfs

/-!
# A written timestamp is read back

Every point in time is read back from its text: years with a sign, leap seconds and fractions of
three, six and nine digits included. The reader takes the parts of the text one after another, so
there is one lemma for each part, which says what is read from the written part with anything that
may follow.

Key theorems: `readYear_writeYear`, `readPart_padded`, `readFraction_writeFraction`, `read_write`.
-/

namespace DataGovernance.Time

open DataGovernance.Text

/-! ### Digits and blanks -/

theorem not_isBlankChar_of_isDigit {c : Char} (h : c.isDigit = true) : isBlankChar c = false := by
  simp only [Char.isDigit, Bool.and_eq_true, decide_eq_true_eq] at h
  have h₁ : 48 ≤ c.toNat := h.1
  have h₂ : c.toNat ≤ 57 := h.2
  simp only [isBlankChar, Bool.or_eq_false_iff, Bool.and_eq_false_iff, decide_eq_false_iff_not,
    beq_eq_false_iff_ne]
  omega

theorem trimStart_cons {c : Char} (h : isBlankChar c = false) (cs : List Char) :
    trimStart (c :: cs) = c :: cs := by
  simp [trimStart, h]

/-- A text that begins with a digit has no blanks to drop. -/
theorem trimStart_digits {ds : List Char} (hd : ∀ c ∈ ds, c.isDigit = true) (hne : ds ≠ [])
    (rest : List Char) : trimStart (ds ++ rest) = ds ++ rest := by
  cases ds with
  | nil => exact absurd rfl hne
  | cons c ds => exact trimStart_cons (not_isBlankChar_of_isDigit (hd c (by simp))) _

theorem takeWhile_digits {ds : List Char} (hd : ∀ c ∈ ds, c.isDigit = true) (rest : List Char) :
    (ds ++ rest).takeWhile Char.isDigit = ds ++ rest.takeWhile Char.isDigit :=
  List.takeWhile_append_of_pos hd

/-- A run of digits that fills the width is read, whatever follows. -/
theorem readDigits_width {ds : List Char} (hd : ∀ c ∈ ds, c.isDigit = true) (hne : ds ≠ [])
    (hv : value ds < signedSize) (rest : List Char) :
    readDigits (some ds.length) (ds ++ rest) = .ok (value ds, rest) := by
  simp only [readDigits, takeWhile_digits hd, List.take_left]
  rw [if_neg hne, if_neg (by omega), List.drop_left]

/-- A run of digits is read whole when no digit follows. -/
theorem readDigits_stop {width : Option Nat} {ds rest : List Char}
    (hd : ∀ c ∈ ds, c.isDigit = true) (hne : ds ≠ []) (hv : value ds < signedSize)
    (hw : ∀ w ∈ width, ds.length ≤ w) (hr : rest.takeWhile Char.isDigit = []) :
    readDigits width (ds ++ rest) = .ok (value ds, rest) := by
  unfold readDigits
  rw [takeWhile_digits hd, hr, List.append_nil]
  cases width with
  | none => simp only [if_neg hne, if_neg (show ¬signedSize ≤ value ds by omega), List.drop_left]
  | some w =>
    simp only [List.take_of_length_le (hw w rfl), if_neg hne,
      if_neg (show ¬signedSize ≤ value ds by omega), List.drop_left]

/-! ### The parts of a timestamp -/

theorem readDigits_year {n : Nat} (hn : n ≤ 262143) (rest : List Char) :
    readDigits none (padded 4 n ++ '-' :: rest) = .ok (n, '-' :: rest) := by
  have hread : readDigits none (padded 4 n ++ '-' :: rest) =
      .ok (value (padded 4 n), '-' :: rest) :=
    readDigits_stop (fun c hc => isDigit_of_mem_padded hc) (padded_ne_nil 4 n)
      (by rw [value_padded, signedSize]; omega) (by simp) rfl
  rwa [value_padded] at hread

/-- A year without a sign has at most four digits. -/
theorem readYear_digits {cs rest : List Char} {c : Char} {n : Nat} (hc : c.isDigit = true)
    (hn : n < 10000) (h : readDigits (some 4) (c :: cs) = .ok (n, rest)) :
    readYear (c :: cs) = .ok ((n : Int), rest) := by
  have hrange : -2147483648 ≤ (n : Int) ∧ (n : Int) < 2147483648 := by omega
  have hminus : c ≠ '-' := by rintro rfl; cases hc
  have hplus : c ≠ '+' := by rintro rfl; cases hc
  unfold readYear
  rw [trimStart_cons (not_isBlankChar_of_isDigit hc)]
  split
  · rename_i heq
    exact absurd (List.cons.inj heq).1 hminus
  · rename_i heq
    exact absurd (List.cons.inj heq).1 hplus
  · simp only [h, Except.map, bind, Except.bind]
    exact if_pos hrange

/-- A year of four digits, or with a sign, is read back before a hyphen. -/
theorem readYear_writeYear {year : Int} (hy : minYear ≤ year ∧ year ≤ maxYear)
    (rest : List Char) : readYear (writeYear year ++ '-' :: rest) = .ok (year, '-' :: rest) := by
  simp only [minYear, maxYear] at hy
  have hrange : -2147483648 ≤ year ∧ year < 2147483648 := by omega
  unfold writeYear
  by_cases h4 : 0 ≤ year ∧ year ≤ 9999
  · have hdig : ∀ c ∈ padded 4 year.toNat, c.isDigit = true :=
      fun c hc => isDigit_of_mem_padded hc
    have hsmall : year.toNat < Nat.pow 10 4 := by
      change year.toNat < 10000
      omega
    have hlen : (padded 4 year.toNat).length = 4 := length_padded (by decide) hsmall
    have hread := readDigits_width hdig (padded_ne_nil 4 _)
      (by rw [value_padded, signedSize]; omega) ('-' :: rest)
    rw [value_padded, hlen] at hread
    have hyear : ((year.toNat : Nat) : Int) = year := by omega
    rw [if_pos h4]
    cases hp : padded 4 year.toNat with
    | nil => exact absurd hp (padded_ne_nil 4 _)
    | cons c ds =>
      rw [hp] at hread hdig
      have h := readYear_digits (hdig c (by simp)) (by omega) hread
      rwa [hyear] at h
  · have hread := readDigits_year (show year.natAbs ≤ 262143 by omega) rest
    rw [if_neg h4]
    by_cases hneg : year < 0
    · have hyear : -((year.natAbs : Nat) : Int) = year := by omega
      rw [if_pos hneg, readYear, List.cons_append, trimStart_cons (by decide)]
      simp only [hread, Except.map, bind, Except.bind, hyear]
      exact if_pos hrange
    · have hyear : ((year.natAbs : Nat) : Int) = year := by omega
      rw [if_neg hneg, readYear, List.cons_append, trimStart_cons (by decide)]
      simp only [hread, Except.map, bind, Except.bind, hyear]
      exact if_pos hrange

/-- A number of two digits that lies within its bounds is read back. -/
theorem readPart_padded {low high n : Nat} (hl : low ≤ n) (hh : n ≤ high) (hn : n < 100)
    (rest : List Char) : readPart low high (padded 2 n ++ rest) = .ok (n, rest) := by
  have hdig : ∀ c ∈ padded 2 n, c.isDigit = true := fun c hc => isDigit_of_mem_padded hc
  have hlen : (padded 2 n).length = 2 := length_padded (by decide) hn
  have hsmall : value (padded 2 n) < signedSize := by
    rw [value_padded, signedSize]
    omega
  have hread := readDigits_width hdig (padded_ne_nil 2 n) hsmall rest
  rw [value_padded, hlen] at hread
  rw [readPart, trimStart_digits hdig (padded_ne_nil 2 n), hread]
  simp [bind, Except.bind, hl, hh]

theorem readMark_cons {mark : Char} (h : isBlankChar mark = false) (rest : List Char) :
    readMark mark (mark :: rest) = .ok rest := by
  simp [readMark, trimStart_cons h]

/-- The digits of a fraction are read back before the sign of universal time. -/
theorem readFraction_point {width n : Nat} (hw : 0 < width) (hw9 : width ≤ 9)
    (hn : n < Nat.pow 10 width) :
    readFraction ('.' :: (padded width n ++ ['Z'])) = .ok (n * Nat.pow 10 (9 - width), ['Z']) := by
  have hlen : (padded width n).length = width := length_padded hw hn
  have hsize : Nat.pow 10 width ≤ 1000000000 := Nat.pow_le_pow_right (by decide) hw9
  have hread : readDigits (some 9) (padded width n ++ ['Z']) =
      .ok (value (padded width n), ['Z']) :=
    readDigits_stop (fun c hc => isDigit_of_mem_padded hc) (padded_ne_nil width n)
      (by rw [value_padded, signedSize]; omega) (by simpa [hlen] using hw9) rfl
  rw [value_padded] at hread
  simp [readFraction, hread, bind, Except.bind, hlen]

/-- A fraction is read back, however many digits it is written with. -/
theorem readFraction_writeFraction {nano : Nat} (h : nano < secondNanos) :
    readFraction (writeFraction nano ++ ['Z']) = .ok (nano, ['Z']) := by
  simp only [secondNanos] at h
  unfold writeFraction
  split
  · rename_i h0
    subst h0
    rfl
  · split
    · rename_i h6
      have hlt : nano / 1000000 < Nat.pow 10 3 := by
        change nano / 1000000 < 1000
        omega
      have hn : nano / 1000000 * Nat.pow 10 (9 - 3) = nano := by
        change nano / 1000000 * 1000000 = nano
        omega
      rw [List.cons_append, readFraction_point (by decide) (by decide) hlt, hn]
    · split
      · rename_i h3
        have hlt : nano / 1000 < Nat.pow 10 6 := by
          change nano / 1000 < 1000000
          omega
        have hn : nano / 1000 * Nat.pow 10 (9 - 6) = nano := by
          change nano / 1000 * 1000 = nano
          omega
        rw [List.cons_append, readFraction_point (by decide) (by decide) hlt, hn]
      · have hn : nano * Nat.pow 10 (9 - 9) = nano := Nat.mul_one nano
        rw [List.cons_append, readFraction_point (by decide) (by decide) h, hn]

/-! ### The whole timestamp -/

/-- What a written clock reading stands for. -/
theorem assemble_write (t : Timestamp) :
    assemble t.date.year t.date.month t.date.day (t.second / 3600) (t.second / 60 % 60)
      (t.second % 60 + if secondNanos ≤ t.nano then 1 else 0)
      (if secondNanos ≤ t.nano then t.nano - secondNanos else t.nano) 0 = .ok t := by
  have hsec := t.second_lt
  simp only [daySeconds] at hsec
  have hself := Timestamp.ofLocal?_self t
  unfold assemble
  rw [Date.ofParts?_self]
  by_cases hleap : secondNanos ≤ t.nano
  · have hlast := t.leap_last hleap
    have hclock : t.second / 3600 * 3600 + t.second / 60 % 60 * 60 + 59 = t.second := by omega
    simp [hleap, hlast, hclock, Nat.sub_add_cancel hleap, hself]
  · have hlt : t.second % 60 < 60 := Nat.mod_lt _ (by decide)
    have hne : t.second % 60 ≠ 60 := by omega
    have hclock : t.second / 3600 * 3600 + t.second / 60 % 60 * 60 + t.second % 60 = t.second := by
      omega
    simp [hleap, hne, hclock, hself]

/-- A reading of the parts of a clock, with a fraction and the sign of universal time. -/
theorem read_parts {year : Int} {month day hour minute second nano : Nat}
    (hy : minYear ≤ year ∧ year ≤ maxYear) (hmo : 1 ≤ month ∧ month ≤ 12)
    (hd : 1 ≤ day ∧ day ≤ 31) (hh : hour ≤ 23) (hmi : minute ≤ 59) (hs : second ≤ 60)
    (hn : nano < secondNanos) :
    read (writeYear year ++ '-' :: padded 2 month ++ '-' :: padded 2 day ++
      'T' :: padded 2 hour ++ ':' :: padded 2 minute ++ ':' :: padded 2 second ++
      writeFraction nano ++ ['Z']) = assemble year month day hour minute second nano 0 := by
  have hmark : ∀ cs, readMark '-' ('-' :: cs) = .ok cs := readMark_cons (by decide)
  have hcolon : ∀ cs, readMark ':' (':' :: cs) = .ok cs := readMark_cons (by decide)
  have hzone : trimStart ['Z'] = ['Z'] := trimStart_cons (by decide) []
  simp only [List.append_assoc, List.cons_append]
  simp only [read, readYear_writeYear hy, readPart_padded hmo.1 hmo.2 (show month < 100 by omega),
    readPart_padded hd.1 hd.2 (show day < 100 by omega),
    readPart_padded (Nat.zero_le _) hh (show hour < 100 by omega),
    readPart_padded (Nat.zero_le _) hmi (show minute < 100 by omega),
    readPart_padded (Nat.zero_le _) hs (show second < 100 by omega),
    readFraction_writeFraction hn, hmark, hcolon, hzone, readSeparator, readOffset, bind,
    Except.bind]
  rfl

/-- **A written timestamp is read back.** -/
theorem read_write (t : Timestamp) : read (write t) = .ok t := by
  have hday := t.date.day_mem
  have hmonth : daysInMonth t.date.year t.date.month ≤ 31 := by
    unfold daysInMonth
    split_ifs <;> omega
  have hsec := t.second_lt
  have hnano := t.nano_lt
  simp only [daySeconds] at hsec
  have hshown : (t.second % 60 + if secondNanos ≤ t.nano then 1 else 0) ≤ 60 := by
    have hlt : t.second % 60 < 60 := Nat.mod_lt _ (by decide)
    split_ifs <;> omega
  have hrest : (if secondNanos ≤ t.nano then t.nano - secondNanos else t.nano) < secondNanos := by
    split_ifs <;> omega
  rw [write, read_parts t.date.year_mem t.date.month_mem
    ⟨hday.1, Nat.le_trans hday.2 hmonth⟩ (by omega) (by omega) hshown hrest]
  exact assemble_write t

end DataGovernance.Time
