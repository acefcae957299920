/-!
# The civil calendar

Days of the proleptic Gregorian calendar, counted from 1970-01-01.

* `CivilDate` : a day by year, month and day of the month.
* `CivilDate.toDay` : its number.
* `CivilDate.ofDay` : the date of a day number.

Inside, a year starts in March, so that a leap day is the last day of its year, and the count starts
on the first of March of the year 0.
-/

namespace ListQuery

/-- A day of the calendar. -/
structure CivilDate where
  /-- The year, `0` being the one before the year 1. -/
  year : Int
  /-- The month, from 1. -/
  month : Nat
  /-- The day of the month, from 1. -/
  day : Nat
deriving DecidableEq, Repr

namespace CivilDate

/-- The year has a leap day. -/
def isLeapYear (year : Int) : Bool :=
  year % 4 == 0 && (year % 100 != 0 || year % 400 == 0)

/-- The number of days in a month. -/
def daysInMonth (year : Int) (month : Nat) : Nat :=
  if month = 2 then (if isLeapYear year then 29 else 28)
  else if month = 4 ∨ month = 6 ∨ month = 9 ∨ month = 11 then 30
  else 31

/-- The date names a day of the calendar. -/
def isValid (d : CivilDate) : Bool :=
  1 ≤ d.month && d.month ≤ 12 && 1 ≤ d.day && d.day ≤ daysInMonth d.year d.month

/-- The days from the first of March of the year 0 to 1970-01-01. -/
def epochDay : Int := 719468

/-- The days of the years before `year`, years starting in March. -/
def daysBeforeYear (year : Int) : Int :=
  365 * year + year / 4 - year / 100 + year / 400

/-- The days of the months before the one that is `month` months after March. -/
def daysBeforeMonth (month : Int) : Int :=
  (153 * month + 2) / 5

/-- The number of the day `d`, counted from 1970-01-01. -/
def toDay (d : CivilDate) : Int :=
  let year : Int := if d.month ≤ 2 then d.year - 1 else d.year
  let month : Int := if d.month ≤ 2 then d.month + 9 else d.month - 3
  daysBeforeYear year + daysBeforeMonth month + (d.day - 1) - epochDay

/-- The date of the day number `n`.  Four hundred years have 146097 days, a century of them 36524
or one more, and four years 1460 or one more. -/
def ofDay (n : Int) : CivilDate :=
  let z := n + epochDay
  let era := z / 146097
  let dayOfEra := z % 146097
  let yearOfEra := (dayOfEra - dayOfEra / 1460 + dayOfEra / 36524 - dayOfEra / 146096) / 365
  let dayOfYear := dayOfEra - daysBeforeYear yearOfEra
  let month := (5 * dayOfYear + 2) / 153
  let day := dayOfYear - daysBeforeMonth month + 1
  let year := era * 400 + yearOfEra
  if month < 10 then ⟨year, (month + 3).toNat, day.toNat⟩
  else ⟨year + 1, (month - 9).toNat, day.toNat⟩

end CivilDate

end ListQuery
