/-!
# The calendar

The calendar is the proleptic Gregorian one: days counted from 1970-01-01 and their year, month and
day.  Years are laid out from March on, so that the leap day is the last one of its year; four
hundred of them have 146097 days.
-/

namespace LeaseQueue

/-- A year, a month and a day of the month, valid or not. -/
@[ext]
structure Civil where
  year : Int
  month : Nat
  day : Nat
  deriving DecidableEq

namespace Civil

/-- Whether a year has a leap day. -/
def isLeap (year : Int) : Bool :=
  year % 4 = 0 && (year % 100 ≠ 0 || year % 400 = 0)

/-- The number of days of a month; none for a month that is not one of the twelve. -/
def daysIn (year : Int) (month : Nat) : Nat :=
  match month with
  | 2 => if isLeap year then 29 else 28
  | 4 | 6 | 9 | 11 => 30
  | 1 | 3 | 5 | 7 | 8 | 10 | 12 => 31
  | _ => 0

/-- Whether the calendar has the date. -/
def Valid (c : Civil) : Prop := 1 ≤ c.day ∧ c.day ≤ daysIn c.year c.month

instance (c : Civil) : Decidable c.Valid := inferInstanceAs (Decidable (_ ∧ _))

/-- The days from 1970-01-01 to a valid date. -/
def toDays (c : Civil) : Int :=
  let year := if c.month ≤ 2 then c.year - 1 else c.year
  let yearOfEra := year % 400
  let month : Int := if c.month ≤ 2 then c.month + 9 else c.month - 3
  let dayOfYear := (153 * month + 2) / 5 + c.day - 1
  let dayOfEra := 365 * yearOfEra + yearOfEra / 4 - yearOfEra / 100 + dayOfYear
  146097 * (year / 400) + dayOfEra - 719468

/-- The date that many days after 1970-01-01. -/
def ofDays (days : Int) : Civil :=
  let era := (days + 719468) / 146097
  let dayOfEra := (days + 719468) % 146097
  let century := min 3 (dayOfEra / 36524)
  let dayOfCentury := dayOfEra - 36524 * century
  let cycle := dayOfCentury / 1461
  let dayOfCycle := dayOfCentury % 1461
  let yearOfCycle := min 3 (dayOfCycle / 365)
  let dayOfYear := dayOfCycle - 365 * yearOfCycle
  let month := (5 * dayOfYear + 2) / 153
  let day := dayOfYear - (153 * month + 2) / 5 + 1
  let year := 400 * era + 100 * century + 4 * cycle + yearOfCycle
  if month < 10 then ⟨year, (month + 3).toNat, day.toNat⟩
  else ⟨year + 1, (month - 9).toNat, day.toNat⟩

end Civil

/-- A day of the calendar, counted from 1970-01-01. -/
@[ext]
structure Date where
  days : Int
  deriving DecidableEq

namespace Date

instance : Inhabited Date := ⟨⟨0⟩⟩

/-- The year, month and day of a date. -/
def civil (d : Date) : Civil := Civil.ofDays d.days

/-- The first year of the supported calendar. -/
def firstYear : Int := -262143

/-- The last year of the supported calendar. -/
def lastYear : Int := 262142

/-- The date of a year, month and day, if the calendar has it and supports the year. -/
def ofCivil? (c : Civil) : Option Date :=
  if c.Valid ∧ firstYear ≤ c.year ∧ c.year ≤ lastYear then some ⟨c.toDays⟩ else none

end Date

end LeaseQueue
