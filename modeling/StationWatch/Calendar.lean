/-!
# The calendar

Dates count years by the Gregorian rule, also where that was not yet in use; the year zero is a leap
year and comes before the year one.  A date has a day number, from which it can be told again.

## Main definitions

* `Calendar.daysInMonth` — the length of a month.
* `Calendar.dayNumber` — the day number of a date.
* `Calendar.dateOf` — the date of a day number.
-/

namespace StationWatch.Calendar

/-- Whether a year has a 29th of February. -/
def isLeap (year : Nat) : Bool := year % 4 == 0 && (year % 100 != 0 || year % 400 == 0)

/-- The number of days of a month. -/
def daysInMonth (year month : Nat) : Nat :=
  if month = 2 then (if isLeap year then 29 else 28)
  else if month = 4 ∨ month = 6 ∨ month = 9 ∨ month = 11 then 30
  else 31

/-- Days from the first of March of the year zero; counting years from March puts the leap day
last. -/
def dayNumber (year month day : Nat) : Int :=
  let y : Int := if month ≤ 2 then (year : Int) - 1 else year
  let m : Int := (month + 9) % 12
  365 * y + y / 4 - y / 100 + y / 400 + (153 * m + 2) / 5 + day - 1

/-- The day number of the first of January 1970. -/
def epochDay : Int := dayNumber 1970 1 1

/-- The year, the month and the day of a day number. -/
def dateOf (days : Int) : Int × Int × Int :=
  let era := days / 146097
  let doe := days % 146097
  let yoe := (doe - doe / 1460 + doe / 36524 - doe / 146096) / 365
  let doy := doe - (365 * yoe + yoe / 4 - yoe / 100)
  let mp := (5 * doy + 2) / 153
  let day := doy - (153 * mp + 2) / 5 + 1
  let month := if mp < 10 then mp + 3 else mp - 9
  let year := yoe + era * 400 + (if month ≤ 2 then 1 else 0)
  (year, month, day)

end StationWatch.Calendar
