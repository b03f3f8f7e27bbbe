import Flowline.Run.Time
set_option autoImplicit false

/-!
# Days and dates

`Timestamp.civil` turns a count of days since 1970-01-01 into a date of the
proleptic Gregorian calendar, and `Timestamp.daysFrom` turns a date back into
a count. Both work in eras of 400 years, 146097 days, and count the years of
an era from March, so that a leap day is the last day of its year.

A day of an era is a `DayOfEra`: a century (the last one a day longer), a
four-year cycle within it (the last cycle of the first three centuries a day
shorter), a year within the cycle and a day within the year, the 366th day
only in the last year of a cycle that has it. The arithmetic of `civil` reads
exactly these parts off a day count (`DayOfEra.yearOfEra_eq`,
`DayOfEra.dayOfYear_eq`).

Main statements:

* `Timestamp.civil_valid`: the month lies between 1 and 12 and the day within
  the month's length;
* `Timestamp.daysFrom_civil`: counting the days of the date gives back the
  count it was made from.
-/

namespace Flowline

/-- A day of a 400-year era, split into its century, its four-year cycle
within the century, its year within the cycle and its day within the year,
years starting in March. A 366th day only falls in the last year of a cycle,
and not in the last cycle of the first three centuries. -/
structure DayOfEra where
  century : Nat
  cycle : Nat
  year : Nat
  day : Nat
  century_le : century ≤ 3
  cycle_le : cycle ≤ 24
  year_le : year ≤ 3
  day_le : day ≤ 365
  leap : day = 365 → year = 3 ∧ (cycle < 24 ∨ century = 3)

namespace DayOfEra

/-- The days of the era before this one. -/
def count (s : DayOfEra) : Nat := 36524 * s.century + 1461 * s.cycle + 365 * s.year + s.day

/-- The year of the era, counted from March. -/
def yearOfEra (s : DayOfEra) : Nat := 100 * s.century + 4 * s.cycle + s.year

theorem count_le (s : DayOfEra) : s.count ≤ 146096 := by
  have := s.leap
  have := s.century_le
  have := s.cycle_le
  have := s.year_le
  have := s.day_le
  unfold count
  omega

theorem yearOfEra_le (s : DayOfEra) : s.yearOfEra ≤ 399 := by
  have := s.century_le
  have := s.cycle_le
  have := s.year_le
  unfold yearOfEra
  omega

/-- Every day of an era has its parts: the centuries, cycles and years are
taken greedily, each capped at the last one. -/
theorem exists_count_eq {n : Nat} (hn : n ≤ 146096) : ∃ s : DayOfEra, s.count = n := by
  -- The century: the last one holds the era's last day too.
  obtain ⟨c, m, hc, hm, hcm⟩ : ∃ c m, c ≤ 3 ∧ m ≤ 36524 ∧ (m = 36524 → c = 3) ∧
      n = 36524 * c + m := by
    refine ⟨min (n / 36524) 3, n - 36524 * min (n / 36524) 3, by omega, by omega, by omega, by omega⟩
  -- The cycle within the century and the year within the cycle.
  have hq : m / 1461 ≤ 24 := by omega
  have hs : m % 1461 ≤ 1460 := by omega
  refine ⟨⟨c, m / 1461, min (m % 1461 / 365) 3, m % 1461 - 365 * min (m % 1461 / 365) 3,
    hc, hq, by omega, by omega, ?_⟩, ?_⟩
  · intro h365
    omega
  · unfold count
    dsimp only
    omega

/-- The year of the era is what `civil` computes from the day count. -/
theorem yearOfEra_eq (s : DayOfEra) :
    (s.count - s.count / 1460 + s.count / 36524 - s.count / 146096) / 365 = s.yearOfEra := by
  have := s.leap
  have := s.century_le
  have := s.cycle_le
  have := s.year_le
  have := s.day_le
  -- The quotients by 1460, 36524 and 146096, each pinned down by the parts.
  have h1460 : s.count / 1460 = 25 * s.century + s.cycle +
      (if 24 * s.century + s.cycle + 365 * s.year + s.day ≥ 1460 then 1 else 0) := by
    unfold count
    split <;> omega
  have h36524 : s.count / 36524 = s.century +
      (if s.century = 3 ∧ s.cycle = 24 ∧ s.year = 3 ∧ s.day = 365 then 1 else 0) := by
    unfold count
    split <;> omega
  have h146096 : s.count / 146096 =
      (if s.century = 3 ∧ s.cycle = 24 ∧ s.year = 3 ∧ s.day = 365 then 1 else 0) := by
    unfold count
    split <;> omega
  rw [h1460, h36524, h146096]
  unfold count yearOfEra
  split <;> split <;> omega

/-- The day of the year is what `civil` computes from the day count. -/
theorem dayOfYear_eq (s : DayOfEra) :
    s.count - (365 * s.yearOfEra + s.yearOfEra / 4 - s.yearOfEra / 100) = s.day := by
  have := s.century_le
  have := s.cycle_le
  have := s.year_le
  unfold count yearOfEra
  omega

/-- The days before a day of the era: those of the years before its own,
with their leap days, and the days of its year before it. -/
theorem count_eq (s : DayOfEra) :
    (s.count : Int) = 365 * (s.yearOfEra : Int) + (s.yearOfEra : Int) / 4 - (s.yearOfEra : Int) / 100 +
      s.day := by
  have := s.century_le
  have := s.cycle_le
  have := s.year_le
  unfold count yearOfEra
  omega

/-- The month of the day counted from March: 0 is March, 11 is February. -/
def marchMonth (s : DayOfEra) : Nat := (5 * s.day + 2) / 153

/-- The calendar month, from 1 for January to 12. -/
def month (s : DayOfEra) : Nat := if s.marchMonth < 10 then s.marchMonth + 3 else s.marchMonth - 9

/-- The day of the month, from 1. -/
def dayOfMonth (s : DayOfEra) : Nat := s.day - (153 * s.marchMonth + 2) / 5 + 1

/-- The calendar year of the day in the era `era`: January and February close
a year of the era, so they belong to the next calendar year. -/
def calendarYear (s : DayOfEra) (era : Int) : Int :=
  s.yearOfEra + era * 400 + (if s.month ≤ 2 then 1 else 0)

/-- The months counted from March start on days 0, 31, 61, ..., 337 of the
year; the day lies in the month its quotient names. -/
theorem marchMonth_spec (s : DayOfEra) :
    s.marchMonth ≤ 11 ∧ (153 * s.marchMonth + 2) / 5 ≤ s.day ∧
      s.day < (153 * (s.marchMonth + 1) + 2) / 5 := by
  have := s.day_le
  unfold marchMonth
  omega

theorem month_pos (s : DayOfEra) : 1 ≤ s.month := by
  have := s.marchMonth_spec
  unfold month
  split <;> omega

theorem month_le (s : DayOfEra) : s.month ≤ 12 := by
  have := s.marchMonth_spec
  unfold month
  split <;> omega

theorem dayOfMonth_pos (s : DayOfEra) : 1 ≤ s.dayOfMonth := by
  unfold dayOfMonth
  omega

/-- The 366th day of a year of the era is the 29th of February of a leap
year: the year closes a four-year cycle, and a century only when it closes
the era. -/
theorem isLeap_of_day (s : DayOfEra) (era : Int) (h : s.day = 365) :
    Timestamp.isLeap (s.calendarYear era) = true := by
  obtain ⟨hyear, hcycle⟩ := s.leap h
  have hmonth : s.month = 2 := by
    unfold month marchMonth
    rw [h]
    rfl
  have hq := s.cycle_le
  have hc := s.century_le
  simp only [Timestamp.isLeap, calendarYear, yearOfEra, hmonth, hyear, Bool.or_eq_true,
    Bool.and_eq_true, beq_iff_eq, bne_iff_ne, ne_eq]
  show ((_ : Int) % 4 = 0 ∧ ¬ (_ : Int) % 100 = 0) ∨ (_ : Int) % 400 = 0
  omega

/-- The day of the month is within the month's length. -/
theorem dayOfMonth_le (s : DayOfEra) (era : Int) :
    s.dayOfMonth ≤ Timestamp.monthLength (s.calendarYear era) s.month := by
  have hspec := s.marchMonth_spec
  have hday := s.day_le
  unfold Timestamp.monthLength
  split
  · -- February: the 29th only in a leap year.
    rename_i hfeb
    have hmp : s.marchMonth = 11 := by
      unfold month at hfeb
      split at hfeb <;> omega
    split
    · unfold dayOfMonth
      omega
    · rename_i hnot
      have h364 : s.day ≠ 365 := fun h => hnot (s.isLeap_of_day era h)
      unfold dayOfMonth
      omega
  · split
    · rename_i _ h30
      simp only [Bool.or_eq_true, decide_eq_true_eq] at h30
      unfold dayOfMonth
      unfold month at h30
      split at h30 <;> omega
    · unfold dayOfMonth
      omega

/-- Counting the days of the date gives back the day of the era. -/
theorem daysFrom_eq (s : DayOfEra) (era : Int) :
    Timestamp.daysFrom (s.calendarYear era) s.month s.dayOfMonth = era * 146097 + s.count - 719468 := by
  have hspec := s.marchMonth_spec
  have hyoe := s.yearOfEra_le
  have hcount := s.count_eq
  have hdm : s.dayOfMonth + (153 * s.marchMonth + 2) / 5 = s.day + 1 := by
    unfold dayOfMonth
    omega
  -- March to December stay in the year of the era, January and February
  -- close it; both ways the month counted from March comes back.
  have hera : ((s.yearOfEra : Int) + era * 400) / 400 = era := by omega
  unfold Timestamp.daysFrom calendarYear month
  simp only [← Int.div_def]
  by_cases hmp : s.marchMonth < 10
  · have hstart : (153 * (((s.marchMonth + 3 : Nat) : Int) - 3) + 2) / 5 =
        (((153 * s.marchMonth + 2) / 5 : Nat) : Int) := by
      rw [Int.natCast_ediv]
      congr 1
      omega
    simp only [hmp, if_true, if_neg (show ¬ s.marchMonth + 3 ≤ 2 by omega),
      if_pos (show s.marchMonth + 3 > 2 by omega), hstart, Int.add_zero, hera, Int.add_sub_cancel]
    omega
  · have hstart : (153 * (((s.marchMonth - 9 : Nat) : Int) + 9) + 2) / 5 =
        (((153 * s.marchMonth + 2) / 5 : Nat) : Int) := by
      rw [Int.natCast_ediv]
      congr 1
      omega
    simp only [hmp, if_false, if_pos (show s.marchMonth - 9 ≤ 2 by omega),
      if_neg (show ¬ s.marchMonth - 9 > 2 by omega), hstart, Int.add_sub_cancel, hera]
    omega

end DayOfEra

/-- Every day count falls on a day of some era. -/
theorem DayOfEra.exists_split (days : Int) :
    ∃ (era : Int) (s : DayOfEra), days + 719468 = era * 146097 + s.count := by
  obtain ⟨s, hs⟩ := DayOfEra.exists_count_eq (n := ((days + 719468) % 146097).toNat) (by omega)
  exact ⟨(days + 719468) / 146097, s, by omega⟩

namespace Timestamp

variable {days era : Int} {s : DayOfEra}

/-- The date of a day count, read off its day of the era. -/
theorem civil_eq (h : days + 719468 = era * 146097 + s.count) :
    civil days = (s.calendarYear era, s.month, s.dayOfMonth) := by
  have hle := s.count_le
  have hera : Int.ediv (days + 719468) 146097 = era := by
    rw [← Int.div_def]
    omega
  have hdoe : (days + 719468 - era * 146097).toNat = s.count := by omega
  simp only [civil, hera, hdoe, DayOfEra.yearOfEra_eq, DayOfEra.dayOfYear_eq]
  rfl

variable {y : Int} {m d : Nat}

/-- A date made from a day count names a real day: a month from 1 to 12 and
a day within that month's length. -/
theorem civil_valid (h : civil days = (y, m, d)) :
    1 ≤ m ∧ m ≤ 12 ∧ 1 ≤ d ∧ d ≤ monthLength y m := by
  obtain ⟨era, s, hs⟩ := DayOfEra.exists_split days
  rw [civil_eq hs, Prod.mk.injEq, Prod.mk.injEq] at h
  obtain ⟨rfl, rfl, rfl⟩ := h
  exact ⟨s.month_pos, s.month_le, s.dayOfMonth_pos, s.dayOfMonth_le era⟩

/-- Counting the days of the date made from a day count gives the count back. -/
theorem daysFrom_civil (h : civil days = (y, m, d)) : daysFrom y m d = days := by
  obtain ⟨era, s, hs⟩ := DayOfEra.exists_split days
  rw [civil_eq hs, Prod.mk.injEq, Prod.mk.injEq] at h
  obtain ⟨rfl, rfl, rfl⟩ := h
  rw [s.daysFrom_eq era]
  omega

theorem dayBounds_eq : dayBounds = (-96465658, 95026601) := by decide

/-- The days a date may fall on are those of the years -262144 to 262143. -/
theorem mem_dayBounds_iff (h : civil days = (y, m, d)) :
    (dayBounds.1 ≤ days ∧ days ≤ dayBounds.2) ↔ (-262144 ≤ y ∧ y ≤ 262143) := by
  obtain ⟨era, s, hs⟩ := DayOfEra.exists_split days
  rw [civil_eq hs, Prod.mk.injEq, Prod.mk.injEq] at h
  obtain ⟨rfl, rfl, rfl⟩ := h
  have hspec := s.marchMonth_spec
  have hyoe := s.yearOfEra_le
  have hcount := s.count_eq
  have hle := s.count_le
  rw [dayBounds_eq]
  -- The first day is the 1st of January of year -262144, day 306 of year 255
  -- of era -656; the last the 31st of December of year 262143, day 305 of
  -- year 143 of era 655.
  unfold DayOfEra.calendarYear DayOfEra.month
  rcases (show era < -656 ∨ era = -656 ∨ (-656 < era ∧ era < 655) ∨ era = 655 ∨ 655 < era by omega)
    with h | rfl | h | rfl | h
  · have : days < -96465658 := by omega
    have : s.yearOfEra + era * 400 + 1 < -262144 := by omega
    split <;> omega
  · -- A century boundary splits the year count, so that the leap days of
    -- each part are known.
    have hcent : s.yearOfEra / 100 = 0 ∧ s.yearOfEra ≤ 99 ∨ s.yearOfEra / 100 = 1 ∧
        100 ≤ s.yearOfEra ∧ s.yearOfEra ≤ 199 ∨ 2 ≤ s.yearOfEra / 100 ∧ 200 ≤ s.yearOfEra := by
      omega
    by_cases hmp : s.marchMonth < 10
    · simp only [hmp, if_true, if_neg (show ¬ s.marchMonth + 3 ≤ 2 by omega)]
      omega
    · simp only [hmp, if_false, if_pos (show s.marchMonth - 9 ≤ 2 by omega)]
      omega
  · have : -96465658 ≤ days ∧ days ≤ 95026601 := by omega
    have : -262144 ≤ s.yearOfEra + era * 400 ∧ s.yearOfEra + era * 400 + 1 ≤ 262143 := by omega
    split <;> omega
  · -- A century boundary splits the year count, so that the leap days of
    -- each part are known.
    have hcent : s.yearOfEra / 100 = 0 ∧ s.yearOfEra ≤ 99 ∨ s.yearOfEra / 100 = 1 ∧
        100 ≤ s.yearOfEra ∧ s.yearOfEra ≤ 199 ∨ 2 ≤ s.yearOfEra / 100 ∧ 200 ≤ s.yearOfEra := by
      omega
    by_cases hmp : s.marchMonth < 10
    · simp only [hmp, if_true, if_neg (show ¬ s.marchMonth + 3 ≤ 2 by omega)]
      omega
    · simp only [hmp, if_false, if_pos (show s.marchMonth - 9 ≤ 2 by omega)]
      omega
  · have : 95026601 < days := by omega
    have : 262143 < s.yearOfEra + era * 400 := by omega
    split <;> omega

end Timestamp

end Flowline
