/-!
The Gregorian calendar, for all years before and after.

Days are counted from 1 January 1970. Counting is easiest in years that begin in March: the leap day
is then the last day of its year, and the lengths of the twelve months repeat with a period of five
months (`monthStart`). Years group into fours, centuries and spans of four centuries with 146097
days, and the last year of each group takes what is left over.

`Date.ofDayNumber` and `Date.dayNumber` are inverse to each other on the dates of the calendar.
-/

namespace TokenLedger

/-- A date: a year of any sign, a month from 1 and a day from 1. -/
structure Date where
  year : Int
  month : Nat
  day : Nat
deriving DecidableEq, Repr

namespace Date

/-- Whether a year has a 29 February. -/
def isLeapYear (year : Int) : Bool :=
  year % 4 == 0 && (year % 100 != 0 || year % 400 == 0)

/-- The number of days of a month. -/
def daysInMonth (year : Int) (month : Nat) : Nat :=
  if month = 2 then (if isLeapYear year then 29 else 28)
  else if month = 4 ∨ month = 6 ∨ month = 9 ∨ month = 11 then 30
  else 31

/-- The days of a March year before its month with this number, March being 0. -/
def monthStart (month : Nat) : Nat := (153 * month + 2) / 5

/-- The days from 1 March of the year 0 to 1 January 1970. -/
def epochDay : Int := 719468

/-- The number of days from 1 January 1970 to the date. -/
def dayNumber (date : Date) : Int :=
  let marchYear := if date.month ≤ 2 then date.year - 1 else date.year
  let marchMonth := (date.month + 9) % 12
  365 * marchYear + marchYear / 4 - marchYear / 100 + marchYear / 400
    + monthStart marchMonth + date.day - 1 - epochDay

/-- The date that lies this number of days after 1 January 1970. -/
def ofDayNumber (number : Int) : Date :=
  let shifted := number + epochDay
  let era := shifted / 146097
  let dayOfEra := (shifted % 146097).toNat
  let century := min (dayOfEra / 36524) 3
  let dayOfCentury := dayOfEra - century * 36524
  let four := dayOfCentury / 1461
  let dayOfFour := dayOfCentury % 1461
  let single := min (dayOfFour / 365) 3
  let dayOfYear := dayOfFour - single * 365
  let marchYear := era * 400 + (century * 100 + four * 4 + single : Nat)
  let marchMonth := (5 * dayOfYear + 2) / 153
  { year := if marchMonth < 10 then marchYear else marchYear + 1
    month := if marchMonth < 10 then marchMonth + 3 else marchMonth - 9
    day := dayOfYear - monthStart marchMonth + 1 }

/-- The date with these numbers, if the calendar has it. -/
def ofParts? (year : Int) (month day : Nat) : Option Date :=
  if 1 ≤ month ∧ month ≤ 12 ∧ 1 ≤ day ∧ day ≤ daysInMonth year month then some ⟨year, month, day⟩
  else none

end Date

end TokenLedger
