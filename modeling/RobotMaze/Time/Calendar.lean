/-! # The calendar — dates and day numbers

    A date of the proleptic Gregorian calendar stands for a day number, counted
    from 1970-01-01.

    * `Date.dayNumber` counts the days up to a date;
    * `Date.ofDayNumber` is the date of a day number;
    * `Date.IsValid` says which year, month and day belong together.

    Inside both functions a year runs from March to February, so that the leap
    day is its last. -/

namespace RobotMaze.Time

/-- A day of the calendar by year, month and day. -/
structure Date where
  year : Int
  month : Nat
  day : Nat
  deriving DecidableEq, Repr

/-- Every fourth year is a leap year, of the full centuries every fourth. -/
def isLeapYear (year : Int) : Bool :=
  year % 4 == 0 && (year % 100 != 0 || year % 400 == 0)

/-- The number of days of a month; zero outside 1–12. -/
def daysInMonth (year : Int) (month : Nat) : Nat :=
  match month with
  | 1 => 31
  | 2 => if isLeapYear year then 29 else 28
  | 3 => 31
  | 4 => 30
  | 5 => 31
  | 6 => 30
  | 7 => 31
  | 8 => 31
  | 9 => 30
  | 10 => 31
  | 11 => 30
  | 12 => 31
  | _ => 0

namespace Date

/-- Whether the month exists and has the day. -/
def IsValid (d : Date) : Prop :=
  1 ≤ d.day ∧ d.day ≤ daysInMonth d.year d.month

instance (d : Date) : Decidable d.IsValid := by
  unfold IsValid
  infer_instance

/-- The days from 0000-03-01 to 1970-01-01. -/
def epochShift : Int := 719468

/-- The day number of a date. -/
def dayNumber (d : Date) : Int :=
  let year := if d.month ≤ 2 then d.year - 1 else d.year
  let month : Int := if d.month ≤ 2 then d.month + 9 else d.month - 3
  365 * year + year / 4 - year / 100 + year / 400 + (153 * month + 2) / 5 + d.day - 1 - epochShift

/-- The date of a day number. -/
def ofDayNumber (n : Int) : Date :=
  let n := n + epochShift
  let era := n / 146097
  let dayOfEra := n % 146097
  let yearOfEra := (dayOfEra - dayOfEra / 1460 + dayOfEra / 36524 - dayOfEra / 146096) / 365
  let dayOfYear := dayOfEra - (365 * yearOfEra + yearOfEra / 4 - yearOfEra / 100)
  let month := (5 * dayOfYear + 2) / 153
  let day := dayOfYear - (153 * month + 2) / 5 + 1
  let year := yearOfEra + 400 * era
  if month < 10 then ⟨year, (month + 3).toNat, day.toNat⟩
  else ⟨year + 1, (month - 9).toNat, day.toNat⟩

/-- The first year of the calendar. -/
def firstYear : Int := -262143

/-- The last year of the calendar. -/
def lastYear : Int := 262142

/-- The date with these parts, if there is one. -/
def of? (year : Int) (month day : Nat) : Option Date :=
  let d : Date := ⟨year, month, day⟩
  if firstYear ≤ year ∧ year ≤ lastYear ∧ d.IsValid then some d else none

end Date

/-- The days of the week, Monday first. -/
def weekdayNames : List String := ["Mon", "Tue", "Wed", "Thu", "Fri", "Sat", "Sun"]

/-- The name of the weekday of a day number; 1970-01-01 was a Thursday. -/
def weekdayName (dayNumber : Int) : String :=
  weekdayNames.getD ((dayNumber + 3) % 7).toNat ""

/-- The leap day is there in a leap year. -/
theorem leapDay_isValid_iff (year : Int) :
    (Date.mk year 2 29).IsValid ↔ isLeapYear year = true := by
  unfold Date.IsValid
  cases h : isLeapYear year <;> simp [daysInMonth, h]

end RobotMaze.Time
