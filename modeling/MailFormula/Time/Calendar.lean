/-!
# The calendar

Days are counted from 1 January 1970 in the proleptic Gregorian calendar. A date and its day
number determine each other; the conversions work with years that start in March, so that the
leap day is the last day of its year.
-/

namespace MailFormula.Time

/-- A date of the proleptic Gregorian calendar. -/
structure Date where
  year : Int
  /-- From 1 to 12. -/
  month : Nat
  /-- From 1 to 31. -/
  day : Nat
deriving DecidableEq, Repr

/-- Whether a year has a leap day. -/
def isLeapYear (year : Int) : Bool :=
  year % 4 == 0 && (year % 100 != 0 || year % 400 == 0)

/-- The number of days of a month. -/
def daysInMonth (year : Int) (month : Nat) : Nat :=
  match month with
  | 2 => if isLeapYear year then 29 else 28
  | 4 | 6 | 9 | 11 => 30
  | _ => 31

namespace Date

/-- The day number of a date. -/
def toDays (d : Date) : Int :=
  let y := if d.month ≤ 2 then d.year - 1 else d.year
  let era := y / 400
  let yearOfEra := y - era * 400
  let monthFromMarch : Int := (d.month + 9) % 12
  let dayOfYear : Int := (153 * monthFromMarch + 2) / 5 + d.day - 1
  let dayOfEra := yearOfEra * 365 + yearOfEra / 4 - yearOfEra / 100 + dayOfYear
  era * 146097 + dayOfEra - 719468

/-- The date of a day number. -/
def ofDays (days : Int) : Date :=
  let z := days + 719468
  let era := z / 146097
  let dayOfEra := z - era * 146097
  let yearOfEra := (dayOfEra - dayOfEra / 1460 + dayOfEra / 36524 - dayOfEra / 146096) / 365
  let dayOfYear := dayOfEra - (365 * yearOfEra + yearOfEra / 4 - yearOfEra / 100)
  let monthFromMarch := (5 * dayOfYear + 2) / 153
  let day := dayOfYear - (153 * monthFromMarch + 2) / 5 + 1
  let month := if monthFromMarch < 10 then monthFromMarch + 3 else monthFromMarch - 9
  let year := yearOfEra + era * 400
  ⟨if month ≤ 2 then year + 1 else year, month.toNat, day.toNat⟩

/-- The day of the year, from 1. -/
def ordinal (d : Date) : Nat :=
  (d.toDays - toDays ⟨d.year, 1, 1⟩ + 1).toNat

/-- The days since the last Monday, from 0 to 6. -/
def daysFromMonday (d : Date) : Nat :=
  ((d.toDays + 3) % 7).toNat

/-- The days since the last Sunday, from 0 to 6. -/
def daysFromSunday (d : Date) : Nat :=
  ((d.toDays + 4) % 7).toNat

/-- The number of the week in the year, when weeks start `sinceStart` days ago and the days before
the first start make week 0. -/
def weekFrom (d : Date) (sinceStart : Nat) : Nat :=
  (d.ordinal + 6 - sinceStart) / 7

/-- The year and number of the week by the rule that a week belongs to the year that holds its
Thursday. -/
def isoWeek (d : Date) : Int × Nat :=
  let thursday := ofDays (d.toDays - d.daysFromMonday + 3)
  (thursday.year, (thursday.ordinal - 1) / 7 + 1)

end Date

/-- The names of the weekdays from Monday on. -/
def weekdayNames : List String :=
  ["Monday", "Tuesday", "Wednesday", "Thursday", "Friday", "Saturday", "Sunday"]

/-- The names of the months from January on. -/
def monthNames : List String :=
  ["January", "February", "March", "April", "May", "June", "July", "August", "September",
    "October", "November", "December"]

/-- The first three letters of a name. -/
def shortName (name : String) : String := String.ofList (name.toList.take 3)

end MailFormula.Time
