/-!
# Calendar dates

Dates of the Gregorian calendar and the seconds since the start of 1970.
-/

namespace PeFacts

/-- A second of the calendar, in universal time. -/
structure Moment where
  year : Nat
  month : Nat
  day : Nat
  hour : Nat
  minute : Nat
  second : Nat
  deriving Repr, DecidableEq, Inhabited

namespace Moment

/-- February has 29 days in this year. -/
def isLeapYear (year : Nat) : Bool := year % 4 == 0 && (year % 100 != 0 || year % 400 == 0)

/-- How many days the month has. -/
def daysIn (year month : Nat) : Nat :=
  if month = 2 then (if isLeapYear year then 29 else 28)
  else if month = 4 || month = 6 || month = 9 || month = 11 then 30
  else 31

/-- The moment exists. -/
def isValid (t : Moment) : Bool :=
  1 ≤ t.month && t.month ≤ 12 && 1 ≤ t.day && t.day ≤ daysIn t.year t.month &&
    t.hour < 24 && t.minute < 60 && t.second < 60

/-- Days from the start of 1970 to the date, below zero before it. A year is counted from March,
so that the leap day is its last, and an era has 400 years. -/
def dayNumber (t : Moment) : Int :=
  let year : Int := if t.month ≤ 2 then (t.year : Int) - 1 else t.year
  let era := year / 400
  let yearOfEra := year % 400
  let month : Int := (t.month + 9) % 12
  let dayOfYear := (153 * month + 2) / 5 + t.day - 1
  let dayOfEra := yearOfEra * 365 + yearOfEra / 4 - yearOfEra / 100 + dayOfYear
  era * 146097 + dayOfEra - 719468

/-- Seconds from the start of 1970. -/
def unixSeconds (t : Moment) : Int :=
  t.dayNumber * 86400 + t.hour * 3600 + t.minute * 60 + t.second

/-- The date that is so many days after the start of 1970, by the same count of years and eras. -/
def ofDayNumber (days : Int) : Moment :=
  let shifted := days + 719468
  let era := shifted / 146097
  let dayOfEra := (shifted % 146097).toNat
  let yearOfEra := (dayOfEra - dayOfEra / 1460 + dayOfEra / 36524 - dayOfEra / 146096) / 365
  let dayOfYear := dayOfEra - (365 * yearOfEra + yearOfEra / 4 - yearOfEra / 100)
  let month := (5 * dayOfYear + 2) / 153
  let year := era * 400 + yearOfEra + (if month < 10 then 0 else 1)
  ⟨year.toNat, if month < 10 then month + 3 else month - 9, dayOfYear - (153 * month + 2) / 5 + 1,
    0, 0, 0⟩

/-- The moment that is so many seconds after the start of 1970. -/
def ofUnixSeconds (seconds : Int) : Moment :=
  let inDay := (seconds % 86400).toNat
  { ofDayNumber (seconds / 86400) with
    hour := inDay / 3600, minute := inDay / 60 % 60, second := inDay % 60 }

/-- A number with at least `width` decimal digits. -/
def padded (width n : Nat) : String :=
  let digits := Nat.toDigits 10 n
  String.ofList (List.replicate (width - digits.length) '0' ++ digits)

/-- The moment as it stands in reports. -/
def text (t : Moment) : String :=
  padded 4 t.year ++ "-" ++ padded 2 t.month ++ "-" ++ padded 2 t.day ++ "T" ++
    padded 2 t.hour ++ ":" ++ padded 2 t.minute ++ ":" ++ padded 2 t.second ++ "Z"

end Moment

end PeFacts
