import TokenLedger.Time.Calendar
/-!
The calendar and the count of days.

A date is found from its day number in two steps: the year that begins in March and the day of that
year (`exists_ofMarch`), and then the month and the day of the month (`ofMarch`). Both steps are
undone by counting (`dayNumber_ofDayNumber`), and what is found is a date of the calendar
(`ofParts?_ofDayNumber`). The days of the bounds of time lie in the first and the last year that a
timestamp can have (`year_bounds`).
-/

namespace TokenLedger.Date

/-! ### Years that begin in March -/

/-- The date in a year that begins in March, with the day of that year from 0. -/
def ofMarch (marchYear : Int) (dayOfYear : Nat) : Date :=
  let marchMonth := (5 * dayOfYear + 2) / 153
  { year := if marchMonth < 10 then marchYear else marchYear + 1
    month := if marchMonth < 10 then marchMonth + 3 else marchMonth - 9
    day := dayOfYear - monthStart marchMonth + 1 }

/-- The days from 1 March of the year 0 to 1 March of a year. -/
def daysBefore (marchYear : Int) : Int :=
  365 * marchYear + marchYear / 4 - marchYear / 100 + marchYear / 400

/-- From March to December. -/
theorem ofMarch_of_lt (marchYear : Int) {dayOfYear month : Nat}
    (month_eq : (5 * dayOfYear + 2) / 153 = month) (early : month < 10) :
    ofMarch marchYear dayOfYear = ⟨marchYear, month + 3, dayOfYear - monthStart month + 1⟩ := by
  rw [ofMarch, month_eq, if_pos early, if_pos early]

/-- January and February. -/
theorem ofMarch_of_le (marchYear : Int) {dayOfYear month : Nat}
    (month_eq : (5 * dayOfYear + 2) / 153 = month) (late : 10 ≤ month) :
    ofMarch marchYear dayOfYear = ⟨marchYear + 1, month - 9, dayOfYear - monthStart month + 1⟩ := by
  rw [ofMarch, month_eq, if_neg (Nat.not_lt.mpr late), if_neg (Nat.not_lt.mpr late)]

theorem monthStart_le {dayOfYear month : Nat} (month_eq : (5 * dayOfYear + 2) / 153 = month) :
    monthStart month ≤ dayOfYear := by
  unfold monthStart
  omega

theorem dayNumber_ofMarch (marchYear : Int) {dayOfYear : Nat} (within : dayOfYear ≤ 365) :
    (ofMarch marchYear dayOfYear).dayNumber = daysBefore marchYear + dayOfYear - epochDay := by
  obtain ⟨month, month_eq⟩ : ∃ month, (5 * dayOfYear + 2) / 153 = month := ⟨_, rfl⟩
  have begun := monthStart_le month_eq
  rcases Nat.lt_or_ge month 10 with early | late
  · have after_february : ¬ month + 3 ≤ 2 := by omega
    have counted : (month + 3 + 9) % 12 = month := by omega
    rw [ofMarch_of_lt marchYear month_eq early, dayNumber]
    dsimp only
    rw [if_neg after_february, counted, daysBefore]
    omega
  · have before_march : month - 9 ≤ 2 := by omega
    have counted : (month - 9 + 9) % 12 = month := by omega
    rw [ofMarch_of_le marchYear month_eq late, dayNumber]
    dsimp only
    rw [if_pos before_march, counted, Int.add_sub_cancel, daysBefore]
    omega

theorem dayOfMonth_le {marchYear : Int} {dayOfYear month : Nat} (early : month < 10)
    (month_eq : (5 * dayOfYear + 2) / 153 = month) :
    dayOfYear - monthStart month + 1 ≤ daysInMonth marchYear (month + 3) := by
  have length : daysInMonth marchYear (month + 3) =
      if month = 1 ∨ month = 3 ∨ month = 6 ∨ month = 8 then 30 else 31 := by
    rw [daysInMonth, if_neg (by omega)]
    congr 1
    apply propext
    omega
  rw [length]
  unfold monthStart
  split <;> omega

/-- The date is one of the calendar if only leap years have a 29 February. -/
theorem valid_ofMarch {marchYear : Int} {dayOfYear : Nat} (within : dayOfYear ≤ 365)
    (leap : dayOfYear = 365 → isLeapYear (marchYear + 1) = true) :
    let date := ofMarch marchYear dayOfYear
    1 ≤ date.month ∧ date.month ≤ 12 ∧
      1 ≤ date.day ∧ date.day ≤ daysInMonth date.year date.month := by
  intro date
  obtain ⟨month, month_eq⟩ : ∃ month, (5 * dayOfYear + 2) / 153 = month := ⟨_, rfl⟩
  have begun := monthStart_le month_eq
  rcases Nat.lt_or_ge month 10 with early | late
  · have date_eq : date = _ := ofMarch_of_lt marchYear month_eq early
    rw [date_eq]
    exact ⟨by dsimp only; omega, by dsimp only; omega, Nat.le_add_left 1 _,
      dayOfMonth_le early month_eq⟩
  · have date_eq : date = _ := ofMarch_of_le marchYear month_eq late
    rw [date_eq]
    refine ⟨by dsimp only; omega, by dsimp only; omega, Nat.le_add_left 1 _, ?_⟩
    obtain rfl | rfl : month = 10 ∨ month = 11 := by omega
    · show dayOfYear - monthStart 10 + 1 ≤ 31
      unfold monthStart
      omega
    · show dayOfYear - monthStart 11 + 1 ≤ if isLeapYear (marchYear + 1) then 29 else 28
      unfold monthStart
      by_cases last : dayOfYear = 365
      · rw [if_pos (leap last)]
        omega
      · split <;> omega

/-! ### Days -/

theorem isLeapYear_of {year : Int} (fourth : year % 4 = 0)
    (centennial : year % 100 = 0 → year % 400 = 0) : isLeapYear year = true := by
  simpa [isLeapYear, fourth] using Decidable.not_or_of_imp centennial

/-- A span of four centuries has 146097 days, a century 36524 and a span of four years 1461. -/
theorem daysBefore_groups (era : Int) {century four single : Nat} (fours : four ≤ 24)
    (singles : single ≤ 3) (centuries : century ≤ 3) :
    daysBefore (era * 400 + (century * 100 + four * 4 + single : Nat)) =
      era * 146097 + century * 36524 + four * 1461 + single * 365 := by
  generalize year_eq : era * 400 + ((century * 100 + four * 4 + single : Nat) : Int) = year
  have by_four : year / 4 = era * 100 + century * 25 + four := by omega
  have by_hundred : year / 100 = era * 4 + century := by omega
  have by_era : year / 400 = era := by omega
  rw [daysBefore, by_four, by_hundred, by_era]
  omega

/-- Every day number falls into a year that begins in March. The last day of such a year is the
366th only at the end of a span of four years, and at the end of a century only if the century is
the last of four. -/
theorem exists_ofMarch (number : Int) :
    ∃ (marchYear : Int) (dayOfYear : Nat), dayOfYear ≤ 365 ∧
      (dayOfYear = 365 → isLeapYear (marchYear + 1) = true) ∧
      ofDayNumber number = ofMarch marchYear dayOfYear ∧
      number = daysBefore marchYear + dayOfYear - epochDay := by
  let era := (number + epochDay) / 146097
  let dayOfEra := ((number + epochDay) % 146097).toNat
  let century := min (dayOfEra / 36524) 3
  let dayOfCentury := dayOfEra - century * 36524
  let four := dayOfCentury / 1461
  let dayOfFour := dayOfCentury % 1461
  let single := min (dayOfFour / 365) 3
  let dayOfYear := dayOfFour - single * 365
  -- each count is split into whole groups and a rest, which the next count splits again
  have counted : number + epochDay = era * 146097 + dayOfEra := by omega
  have era_days : dayOfEra = century * 36524 + dayOfCentury ∧ century ≤ 3 ∧
      dayOfCentury ≤ 36524 ∧ (dayOfCentury = 36524 → century = 3) := by omega
  have century_days : dayOfCentury = four * 1461 + dayOfFour ∧ four ≤ 24 ∧ dayOfFour ≤ 1460 := by
    omega
  have four_days : dayOfFour = single * 365 + dayOfYear ∧ single ≤ 3 ∧ dayOfYear ≤ 365 ∧
      (dayOfYear = 365 → single = 3) := by omega
  have date_eq : ofDayNumber number =
      ofMarch (era * 400 + (century * 100 + four * 4 + single : Nat)) dayOfYear := rfl
  -- from here on only the bounds matter, not how the groups were found
  clear_value era dayOfEra century dayOfCentury four dayOfFour single dayOfYear
  refine ⟨_, dayOfYear, four_days.2.2.1, fun last => ?_, date_eq, ?_⟩
  · exact isLeapYear_of (by omega) (by omega)
  · have days := daysBefore_groups era century_days.2.1 four_days.2.1 era_days.2.1
    omega

theorem dayNumber_ofDayNumber (number : Int) : (ofDayNumber number).dayNumber = number := by
  obtain ⟨marchYear, dayOfYear, within, -, date_eq, number_eq⟩ := exists_ofMarch number
  rw [date_eq, dayNumber_ofMarch marchYear within]
  exact number_eq.symm

theorem valid_ofDayNumber (number : Int) :
    1 ≤ (ofDayNumber number).month ∧ (ofDayNumber number).month ≤ 12 ∧
      1 ≤ (ofDayNumber number).day ∧ (ofDayNumber number).day ≤
        daysInMonth (ofDayNumber number).year (ofDayNumber number).month := by
  obtain ⟨marchYear, dayOfYear, within, leap, date_eq, -⟩ := exists_ofMarch number
  rw [date_eq]
  exact valid_ofMarch within leap

theorem ofParts?_ofDayNumber (number : Int) :
    ofParts? (ofDayNumber number).year (ofDayNumber number).month (ofDayNumber number).day =
      some (ofDayNumber number) :=
  if_pos (valid_ofDayNumber number)

theorem daysInMonth_le (year : Int) (month : Nat) : daysInMonth year month ≤ 31 := by
  unfold daysInMonth
  split
  · split <;> decide
  · split <;> decide

/-! ### Bounds -/

/-- A year has at least 365 days. -/
theorem daysBefore_add_le {earlier later : Int} (before : earlier < later) :
    daysBefore earlier + 365 ≤ daysBefore later := by
  have fours : earlier / 4 ≤ later / 4 := by omega
  have centuries : later / 100 - earlier / 100 ≤ later / 4 - earlier / 4 := by omega
  have eras : earlier / 400 ≤ later / 400 := by omega
  unfold daysBefore
  omega

/-- From the first day of the first instant to the last day of the last one, dates have the years
that a timestamp can have. -/
theorem year_bounds {number : Int} (first : -96465292 ≤ number) (last : number ≤ 95026236) :
    -262143 ≤ (ofDayNumber number).year ∧ (ofDayNumber number).year ≤ 262142 := by
  obtain ⟨marchYear, dayOfYear, within, -, date_eq, number_eq⟩ := exists_ofMarch number
  have first_days : daysBefore (-262144) = -95746130 := by decide
  have last_days : daysBefore 262142 = 95745399 := by decide
  rw [epochDay] at number_eq
  have from_first : -262144 ≤ marchYear := Int.not_lt.mp fun early => by
    have days := daysBefore_add_le early
    omega
  have to_last : marchYear ≤ 262142 := Int.not_lt.mp fun late => by
    have days := daysBefore_add_le late
    omega
  -- the outermost two years count from March: only their part inside the bounds is reached
  have january : marchYear = -262144 → 306 ≤ dayOfYear := by
    rintro rfl
    omega
  have december : marchYear = 262142 → dayOfYear ≤ 305 := by
    rintro rfl
    omega
  rw [date_eq, ofMarch]
  dsimp only
  split <;> omega

end TokenLedger.Date
