/-!
# The calendar

Dates and times of day in the Gregorian calendar, extended backwards to the year 1, and the
count of microseconds from the beginning of that year.

The two directions are `DateTime.micros` and `DateTime.ofMicros`.  The first adds up the days
of the years and months before a date.  The second takes off blocks of 400, 100, 4 and 1 years;
the last century of a block of four and the last year of a block of four are a day longer than
the others, which is why a quotient of four stands for three.
-/

namespace LogSearch

/-- The year has a 29th of February. -/
def isLeapYear (year : Nat) : Bool := year % 4 = 0 && (year % 100 ≠ 0 || year % 400 = 0)

/-- The days of the twelve months. -/
def monthLengths (leap : Bool) : List Nat :=
  [31, if leap then 29 else 28, 31, 30, 31, 30, 31, 31, 30, 31, 30, 31]

/-- The days from the beginning of the year 1 to the beginning of `year`. -/
def daysBeforeYear (year : Nat) : Nat :=
  let y := year - 1
  365 * y + y / 4 - y / 100 + y / 400

/-- The days from the beginning of the year to the beginning of its `month`-th month. -/
def daysBeforeMonth (leap : Bool) (month : Nat) : Nat :=
  ((monthLengths leap).take (month - 1)).foldl (· + ·) 0

/-- The first year, the last year, and the number of days in all of them. -/
def firstYear : Nat := 1

@[inherit_doc firstYear]
def lastYear : Nat := 9999

@[inherit_doc firstYear]
def dayCount : Nat := 3652059

/-- The microseconds of a second and of a day. -/
def microsPerSecond : Nat := 1000000

@[inherit_doc microsPerSecond]
def microsPerDay : Nat := 86400 * microsPerSecond

/-- A date and a time of day, in no particular zone. -/
structure DateTime where
  year : Nat
  month : Nat
  day : Nat
  hour : Nat
  minute : Nat
  second : Nat
  micro : Nat
deriving DecidableEq, Repr

namespace DateTime

/-- The fields name a day of the calendar and a time of day. -/
def IsValid (d : DateTime) : Prop :=
  firstYear ≤ d.year ∧ d.year ≤ lastYear ∧ 1 ≤ d.month ∧ d.month ≤ 12 ∧ 1 ≤ d.day ∧
    d.day ≤ (monthLengths (isLeapYear d.year)).getD (d.month - 1) 0 ∧
    d.hour < 24 ∧ d.minute < 60 ∧ d.second < 60 ∧ d.micro < microsPerSecond

instance (d : DateTime) : Decidable d.IsValid := by unfold IsValid; infer_instance

/-- The date and time itself, if it is valid. -/
def validated (d : DateTime) : Option DateTime := if d.IsValid then some d else none

/-- The valid date and time with the given fields, from the year to the microsecond.  Fields
at the end may be left out and are zero then. -/
def ofFields? (fields : List Int) : Option DateTime :=
  if fields.any (· < 0) then none
  else
    let field (i : Nat) : Nat := (fields.getD i 0).toNat
    validated ⟨field 0, field 1, field 2, field 3, field 4, field 5, field 6⟩

/-- The microseconds since the beginning of the year 1. -/
def micros (d : DateTime) : Nat :=
  let days :=
    daysBeforeYear d.year + daysBeforeMonth (isLeapYear d.year) d.month + (d.day - 1)
  ((days * 24 + d.hour) * 60 + d.minute) * 60 * microsPerSecond + d.second * microsPerSecond
    + d.micro

/-- The year and the day in it, counted from 0, of the day with the given number. -/
def yearAndDay (days : Nat) : Nat × Nat :=
  let inEra := days % 146097
  let century := min (inEra / 36524) 3
  let inCentury := inEra - century * 36524
  let inBlock := inCentury % 1461
  let yearOfBlock := min (inBlock / 365) 3
  (days / 146097 * 400 + century * 100 + inCentury / 1461 * 4 + yearOfBlock + 1,
    inBlock - yearOfBlock * 365)

/-- The month and the day of it, both counted from 1, of a day counted from 0, where the
months from number `month` on have the given lengths. -/
def monthAndDay : List Nat → Nat → Nat → Nat × Nat
  | [], month, day => (month, day + 1)
  | length :: rest, month, day =>
    if day < length then (month, day + 1) else monthAndDay rest (month + 1) (day - length)

/-- The date and time at so many microseconds since the beginning of the year 1. -/
def ofMicros (n : Nat) : DateTime :=
  let (year, dayOfYear) := yearAndDay (n / microsPerDay)
  let (month, day) := monthAndDay (monthLengths (isLeapYear year)) 1 dayOfYear
  let seconds := n / microsPerSecond % 86400
  ⟨year, month, day, seconds / 3600, seconds / 60 % 60, seconds % 60, n % microsPerSecond⟩

end DateTime

end LogSearch
