import StreamOperator.Time.Reader

/-!
# Days of the civil calendar

Every number of days since the beginning of 1970 is the number of one day of the calendar, and the day it
is converted to is that day (`Instant.exists_civil`). The calendar repeats itself every 400 years; within
such an era, counted from a first of March, a day is placed by its century, its four years in the century,
its year of these and its place in the year (`Era.Place`). Only the last year of four has a day more than
365, and of those that end a century only the last one of the era.
-/

set_option autoImplicit false

namespace StreamOperator.Instant

/-! ## Eras -/

namespace Era

variable {n century four year dayOfYear : Nat}

/-- Where the `n`-th day of an era is. -/
structure Place (n century four year dayOfYear : Nat) : Prop where
  century_lt : century < 4
  four_lt : four < 25
  year_lt : year < 4
  dayOfYear_le : dayOfYear ≤ 365
  leap : dayOfYear = 365 → year = 3 ∧ (four < 24 ∨ century = 3)
  day_eq : n = 36524 * century + 1461 * four + 365 * year + dayOfYear

theorem exists_year (below : n < 1461) : ∃ year dayOfYear, year < 4 ∧ dayOfYear ≤ 365 ∧
    (dayOfYear = 365 → year = 3) ∧ n = 365 * year + dayOfYear := by
  by_cases last : n = 1460
  · exact ⟨3, 365, by omega⟩
  · exact ⟨n / 365, n % 365, by omega⟩

theorem exists_century (below : n < 146097) : ∃ century r, century < 4 ∧
    (r < 36524 ∨ r = 36524 ∧ century = 3) ∧ n = 36524 * century + r := by
  by_cases last : n = 146096
  · exact ⟨3, 36524, by omega⟩
  · exact ⟨n / 36524, n % 36524, by omega⟩

/-- Every day of an era has its place. -/
theorem exists_place (below : n < 146097) :
    ∃ century four year dayOfYear, Place n century four year dayOfYear := by
  obtain ⟨century, r, century_lt, short, split⟩ := exists_century below
  have rest : r % 1461 < 1461 := Nat.mod_lt _ (by decide)
  obtain ⟨year, dayOfYear, year_lt, le, leap, own⟩ := exists_year rest
  exact ⟨century, r / 1461, year, dayOfYear, century_lt, by omega, year_lt, le,
    fun last => ⟨leap last, by omega⟩, by omega⟩

/-- Years of four have 1461 days, so the quotient by 1460 counts them and a little more: what it counts
more is at most the days past in the year, and leaves less than 365 of these. -/
theorem Place.leapDays (place : Place n century four year dayOfYear) :
    ∃ past, n / 1460 = 25 * century + four + past ∧ past ≤ dayOfYear ∧ dayOfYear < past + 365 := by
  obtain ⟨century_lt, four_lt, year_lt, le, leap, rfl⟩ := place
  exact ⟨(24 * century + four + 365 * year + dayOfYear) / 1460, by omega, by omega, by omega⟩

/-- A century has its days, apart from the last day of the era. -/
theorem Place.centuries (place : Place n century four year dayOfYear) :
    n / 36524 = century + n / 146096 := by
  obtain ⟨century_lt, four_lt, year_lt, le, leap, own⟩ := place
  by_cases last : n = 146096
  · have final : century = 3 := by omega
    omega
  · omega

/-- The number of a day's year in its era. -/
theorem Place.yearOfEra (place : Place n century four year dayOfYear) :
    (n - n / 1460 + n / 36524 - n / 146096) / 365 = 100 * century + 4 * four + year := by
  obtain ⟨past, leapDays, least, short⟩ := place.leapDays
  have own := place.day_eq
  have days : n - (25 * century + four + past) + (century + n / 146096) - n / 146096
      = 365 * (100 * century + 4 * four + year) + (dayOfYear - past) := by
    clear leapDays
    generalize n / 146096 = last
    omega
  have rest : dayOfYear - past < 365 := by omega
  rw [leapDays, place.centuries, days, Nat.mul_add_div (by decide), Nat.div_eq_of_lt rest, Nat.add_zero]

/-- What is left of a day's number without the years before is its number in its year. -/
theorem Place.restOfYear (place : Place n century four year dayOfYear) :
    n - (365 * (100 * century + 4 * four + year) + (100 * century + 4 * four + year) / 4
      - (100 * century + 4 * four + year) / 100) = dayOfYear := by
  have := place.year_lt
  have := place.four_lt
  have := place.day_eq
  omega

end Era

/-! ## Months -/

/-- A day of the calendar. -/
structure Valid (year : Int) (month day : Nat) : Prop where
  month_pos : 1 ≤ month
  month_le : month ≤ 12
  day_pos : 1 ≤ day
  day_le : day ≤ daysInMonth year month

/-- The month of a day in a year that begins in March. -/
def monthOf (dayOfYear : Nat) : Nat :=
  let monthFromMarch := (5 * dayOfYear + 2) / 153
  if monthFromMarch < 10 then monthFromMarch + 3 else monthFromMarch - 9

/-- The day in its month of a day in a year that begins in March. -/
def dayOf (dayOfYear : Nat) : Nat := dayOfYear - (153 * ((5 * dayOfYear + 2) / 153) + 2) / 5 + 1

/-- The place of a day in a year that begins in March. -/
def dayOfYear (month day : Nat) : Nat := (153 * ((month + 9) % 12) + 2) / 5 + day - 1

/-- A day is in a month, where only the last day of a long year is a 29th of February, and is counted back
to its place in the year. -/
theorem month_of_day : ∀ dayOfYear < 366,
    1 ≤ monthOf dayOfYear ∧ monthOf dayOfYear ≤ 12 ∧ 1 ≤ dayOf dayOfYear ∧
    (dayOf dayOfYear ≤ daysInMonth 1 (monthOf dayOfYear) ∨ dayOfYear = 365) ∧
    Instant.dayOfYear (monthOf dayOfYear) (dayOf dayOfYear) = dayOfYear := by
  decide +kernel

/-- No month is shorter than in an ordinary year. -/
theorem daysInMonth_le (year : Int) (month : Nat) : daysInMonth 1 month ≤ daysInMonth year month := by
  have ordinary : isLeapYear 1 = false := rfl
  unfold daysInMonth
  split
  · rw [ordinary]
    cases isLeapYear year <;> decide
  · exact Nat.le_refl _

theorem daysInMonth_le_31 (year : Int) (month : Nat) : daysInMonth year month ≤ 31 := by
  unfold daysInMonth
  split <;> split <;> decide

theorem isLeapYear_iff (year : Int) :
    isLeapYear year = true ↔ year % 4 = 0 ∧ (year % 100 ≠ 0 ∨ year % 400 = 0) := by
  simp [isLeapYear, Int.fmod_eq_emod_of_nonneg]

/-! ## Years -/

/-- The days from the first of March of year 0 to that of a year. -/
def daysBefore (year : Int) : Int := 365 * year + year / 4 - year / 100 + year / 400

/-- The number of a day in closed form. -/
theorem daysFromCivil_eq (year : Int) (month day : Nat) : daysFromCivil year month day =
    daysBefore (if month ≤ 2 then year - 1 else year) + dayOfYear month day - 719468 := by
  simp only [daysFromCivil, daysBefore, dayOfYear,
    Int.fdiv_eq_ediv_of_nonneg _ (by decide : (0 : Int) ≤ 400),
    Int.fdiv_eq_ediv_of_nonneg _ (by decide : (0 : Int) ≤ 100),
    Int.fdiv_eq_ediv_of_nonneg _ (by decide : (0 : Int) ≤ 4)]
  generalize (if month ≤ 2 then year - 1 else year) = y
  generalize ((153 * ((month + 9) % 12) + 2) / 5 + day - 1 : Nat) = m
  omega

/-- The years of an era are counted on from the era before. -/
theorem Era.Place.civilFromDays_eq {n century four year dayOfYear : Nat} {days : Int}
    (place : Place n century four year dayOfYear) (dayOfEra : (days + 719468) % 146097 = n) :
    let began : Int := (100 * century + 4 * four + year : Nat) + (days + 719468) / 146097 * 400
    civilFromDays days =
      (if monthOf dayOfYear ≤ 2 then began + 1 else began, monthOf dayOfYear, dayOf dayOfYear) := by
  have era : (days + 719468).fdiv 146097 = (days + 719468) / 146097 :=
    Int.fdiv_eq_ediv_of_nonneg _ (by decide)
  have rest : (days + 719468 - (days + 719468) / 146097 * 146097).toNat = n := by omega
  simp only [civilFromDays, era, rest, place.yearOfEra, place.restOfYear]
  rfl

/-- A year with a 29th of February follows the years that end with a day more. -/
theorem Era.Place.isLeapYear {n century four year : Nat} (place : Place n century four year 365)
    (era : Int) : isLeapYear ((100 * century + 4 * four + year : Nat) + era * 400 + 1) = true := by
  obtain ⟨last, long⟩ := place.leap rfl
  have four_lt := place.four_lt
  rw [isLeapYear_iff, last]
  refine ⟨by omega, ?_⟩
  rcases long with short | final
  · exact .inl (by omega)
  · by_cases short : four < 24
    · exact .inl (by omega)
    · exact .inr (by omega)

/-- The days before a year, in closed form. -/
theorem Era.Place.daysBefore {n century four year dayOfYear : Nat}
    (place : Place n century four year dayOfYear) (era : Int) :
    daysBefore ((100 * century + 4 * four + year : Nat) + era * 400) + dayOfYear
      = era * 146097 + n := by
  unfold Instant.daysBefore
  generalize ahead : ((100 * century + 4 * four + year : Nat) + era * 400 : Int) = began
  have own := place.day_eq
  have year_lt := place.year_lt
  have four_lt := place.four_lt
  have century_lt := place.century_lt
  have quarters : began / 4 = 25 * century + four + 100 * era := by omega
  have hundreds : began / 100 = century + 4 * era := by omega
  have eras : began / 400 = era := by omega
  rw [quarters, hundreds, eras]
  omega

/-- Each number of days is the number of the day of the calendar to which it is converted. -/
theorem exists_civil (days : Int) : ∃ year month day, civilFromDays days = (year, month, day) ∧
    Valid year month day ∧ daysFromCivil year month day = days := by
  have positive : (0 : Int) ≤ (days + 719468) % 146097 := Int.emod_nonneg _ (by decide)
  obtain ⟨n, dayOfEra⟩ := Int.eq_ofNat_of_zero_le positive
  have below : n < 146097 := by omega
  obtain ⟨century, four, year, dayOfYear, place⟩ := Era.exists_place below
  obtain ⟨month_pos, month_le, day_pos, day_le, counted⟩ :=
    month_of_day dayOfYear (Nat.lt_succ_of_le place.dayOfYear_le)
  refine ⟨_, _, _, place.civilFromDays_eq dayOfEra, ⟨month_pos, month_le, day_pos, ?_⟩, ?_⟩
  · -- Only the day that a leap year has more needs the year to be one.
    rcases day_le with ordinary | last
    · exact Nat.le_trans ordinary (daysInMonth_le _ _)
    · subst last
      have february : monthOf 365 = 2 := rfl
      rw [february, if_pos (by decide), daysInMonth, if_pos rfl, if_pos (place.isLeapYear _)]
      decide
  · have before := place.daysBefore ((days + 719468) / 146097)
    rw [daysFromCivil_eq, counted]
    split
    · rw [Int.add_sub_cancel, before]
      omega
    · rw [before]
      omega

/-- The months from March to December are the first of their year, January and February the last. -/
theorem Valid.dayOfYear_le {year : Int} {month day : Nat} (valid : Valid year month day) :
    (month ≤ 2 → 306 ≤ dayOfYear month day ∧ dayOfYear month day ≤ 367) ∧
    (2 < month → dayOfYear month day ≤ 305) := by
  obtain ⟨month_pos, month_le, day_pos, day_le⟩ := valid
  have day_le : day ≤ 31 := Nat.le_trans day_le (daysInMonth_le_31 year month)
  unfold dayOfYear
  omega

/-- A year has 365.2425 days, give or take a day. -/
theorem daysBefore_bounds (year : Int) :
    400 * daysBefore year ≤ 146097 * year + 396 ∧ 146097 * year - 699 ≤ 400 * daysBefore year := by
  have quarters : 4 * (year / 4) ≤ year ∧ year - 3 ≤ 4 * (year / 4) := by omega
  have hundreds : 100 * (year / 100) ≤ year ∧ year - 99 ≤ 100 * (year / 100) := by omega
  have eras : 400 * (year / 400) ≤ year ∧ year - 399 ≤ 400 * (year / 400) := by omega
  unfold daysBefore
  generalize year / 4 = quarter at *
  generalize year / 100 = hundred at *
  generalize year / 400 = era at *
  omega

/-- The days of the calendar are those of its years. -/
theorem Valid.year_of_inCalendar {year : Int} {month day : Nat} (valid : Valid year month day)
    (inside : inCalendar (daysFromCivil year month day) = true) :
    firstYear ≤ year ∧ year ≤ lastYear := by
  have first : daysFromCivil firstYear 1 1 = -96465292 := by decide
  have last : daysFromCivil lastYear 12 31 = 95026236 := by decide
  have firstMarch : daysBefore (-262144) = -95746130 := by decide
  have lastMarch : daysBefore 262142 = 95745399 := by decide
  rw [inCalendar, first, last, Bool.and_eq_true, decide_eq_true_eq, decide_eq_true_eq,
    daysFromCivil_eq] at inside
  obtain ⟨fromMarch, toMarch⟩ := valid.dayOfYear_le
  unfold firstYear lastYear
  -- A year that is out of the calendar is next to it or a whole year away.
  by_cases early : month ≤ 2
  · obtain ⟨late, _⟩ := fromMarch early
    have bounds := daysBefore_bounds (year - 1)
    rw [if_pos early] at inside
    refine ⟨by omega, Int.not_lt.mp fun beyond => ?_⟩
    by_cases next : year - 1 = 262142
    · rw [next, lastMarch] at inside
      omega
    · omega
  · have late := toMarch (by omega)
    have bounds := daysBefore_bounds year
    rw [if_neg early] at inside
    refine ⟨Int.not_lt.mp fun before => ?_, by omega⟩
    by_cases next : year = -262144
    · rw [next, firstMarch] at inside
      omega
    · omega

end StreamOperator.Instant
