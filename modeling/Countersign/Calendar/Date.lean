/-!
# Calendar dates

Days of the proleptic Gregorian calendar, from the first day of the year -262143 to the last of the
year 262142. A `Date` is such a day by its type. `Date.dayNumber` counts the days since 1 January
1970 and `Date.ofDayNumber?` finds the date of a count; both work in cycles of 400 years (146097
days) with the year beginning in March, so that the leap day is the last day of its year.
-/

namespace Countersign.Calendar

/-- The year has a leap day. -/
def isLeapYear (year : Int) : Bool :=
  year % 4 == 0 && (year % 100 != 0 || year % 400 == 0)

/-- The number of days of a month, for months 1 to 12. -/
def daysInMonth (year : Int) (month : Nat) : Nat :=
  if month = 2 then if isLeapYear year then 29 else 28
  else if month = 4 ∨ month = 6 ∨ month = 9 ∨ month = 11 then 30
  else 31

/-- The first year that is supported. -/
def firstYear : Int := -262143

/-- The last year that is supported. -/
def lastYear : Int := 262142

/-- Year, month and day name an existing day of a supported year. -/
def IsDay (year : Int) (month day : Nat) : Prop :=
  (firstYear ≤ year ∧ year ≤ lastYear) ∧ (1 ≤ month ∧ month ≤ 12) ∧
    1 ≤ day ∧ day ≤ daysInMonth year month

instance (year : Int) (month day : Nat) : Decidable (IsDay year month day) := by
  unfold IsDay
  infer_instance

/-- A day of the calendar. -/
structure Date where
  year : Int
  month : Nat
  day : Nat
  isDay : IsDay year month day
  deriving DecidableEq

namespace Date

/-- The date of a year, a month and a day, where there is such a day. -/
def ofCivil? (year : Int) (month day : Nat) : Option Date :=
  if h : IsDay year month day then some ⟨year, month, day, h⟩ else none

@[simp] theorem ofCivil?_self (d : Date) : ofCivil? d.year d.month d.day = some d := dif_pos d.isDay

/-- The days from 1 March of the year 0 to 1 January 1970. -/
def epochOffset : Int := 719468

/-- The number of days since 1 January 1970, negative before it. -/
def dayNumber (d : Date) : Int :=
  let year := if d.month ≤ 2 then d.year - 1 else d.year
  let month : Int := if d.month ≤ 2 then d.month + 9 else d.month - 3
  let yearOfCycle := year % 400
  let dayOfYear := (153 * month + 2) / 5 + d.day - 1
  let dayOfCycle := yearOfCycle * 365 + yearOfCycle / 4 - yearOfCycle / 100 + dayOfYear
  year / 400 * 146097 + dayOfCycle - epochOffset

/-- The date that lies `n` days after 1 January 1970. -/
def ofDayNumber? (n : Int) : Option Date :=
  let n := n + epochOffset
  let dayOfCycle := n % 146097
  let yearOfCycle :=
    (dayOfCycle - dayOfCycle / 1460 + dayOfCycle / 36524 - dayOfCycle / 146096) / 365
  let dayOfYear := dayOfCycle - (365 * yearOfCycle + yearOfCycle / 4 - yearOfCycle / 100)
  let month := (5 * dayOfYear + 2) / 153
  let day := dayOfYear - (153 * month + 2) / 5 + 1
  let year := yearOfCycle + n / 146097 * 400
  if month < 10 then ofCivil? year (month + 3).toNat day.toNat
  else ofCivil? (year + 1) (month - 9).toNat day.toNat

end Date

end Countersign.Calendar
