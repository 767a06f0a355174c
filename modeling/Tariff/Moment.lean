import Tariff.Fault

/-!
# Moments

A date with a time of day, and its distance from universal time if that is known. Where it is not,
the moment counts as one of universal time.

## Main definitions

* `Tariff.Moment.Parts` — the parts of a moment; `Parts.outOfRange?` says which is out of range.
* `Tariff.Moment` — a moment, whose parts are in range.
* `Tariff.Moment.dayNumber` — the number of a day, counted from the first day of year one.
* `Tariff.Moment.isoText` — a moment in writing.
* `Tariff.Moment.timestamp` — the seconds since the start of 1970.
-/

set_option autoImplicit false

namespace Tariff

open Tariff.Number

namespace Moment

/-! ### The calendar -/

/-- Whether a year has 366 days. -/
def isLeap (year : Nat) : Bool :=
  year % 4 == 0 && (year % 100 != 0 || year % 400 == 0)

/-- The number of days of a month. -/
def daysInMonth (year month : Nat) : Nat :=
  if month = 2 then if isLeap year then 29 else 28
  else if month = 4 ∨ month = 6 ∨ month = 9 ∨ month = 11 then 30
  else 31

/-- The number of days from the first day of year one to the first day of a year. -/
def daysBeforeYear (year : Nat) : Nat :=
  let past := year - 1
  past * 365 + past / 4 - past / 100 + past / 400

/-- The number of days of a year before the first day of a month. -/
def daysBeforeMonth (year month : Nat) : Nat :=
  (List.range (month - 1)).foldl (fun days m => days + daysInMonth year (m + 1)) 0

/-- The number of a day; the first day of year one has number one. -/
def dayNumber (year month day : Nat) : Nat :=
  daysBeforeYear year + daysBeforeMonth year month + day

/-- The day of the week, from zero for Monday. -/
def weekday (number : Nat) : Nat :=
  (number + 6) % 7

/-- The year of a day by its number: by cycles of 400 years, by centuries, by leap years and by
years. The last day of a cycle and of a leap year belong to the year before them. -/
def yearOf (number : Nat) : Nat :=
  let inCycle := (number - 1) % 146097
  let century := min 3 (inCycle / 36524)
  let inCentury := inCycle - century * 36524
  let year := min 3 (inCentury % 1461 / 365)
  (number - 1) / 146097 * 400 + century * 100 + inCentury / 1461 * 4 + year + 1

/-- The month of a year by the number of a day of the year, and the day of that month. -/
def monthDay (year dayOfYear : Nat) : Nat × Nat :=
  let month := ((List.range 12).filter fun m => daysBeforeMonth year (m + 1) < dayOfYear).length
  (month, dayOfYear - daysBeforeMonth year month)

/-- The year, month and day of a day by its number. -/
def dateOf (number : Nat) : Nat × Nat × Nat :=
  let year := yearOf number
  (year, monthDay year (number - daysBeforeYear year))

/-- The number of the Monday that starts the first week of a year: the week of the first
Thursday. -/
def firstMonday (year : Nat) : Nat :=
  let first := dayNumber year 1 1
  let monday := first - weekday first
  if 3 < weekday first then monday + 7 else monday

/-- Whether a year has a week 53: it starts on a Thursday, or on a Wednesday in a leap year. -/
def hasWeek53 (year : Nat) : Bool :=
  let first := weekday (dayNumber year 1 1)
  first == 3 || (first == 2 && isLeap year)

/-! ### The parts of a moment -/

/-- The parts of a date with a time of day. -/
structure Parts where
  year : Nat
  month : Nat
  day : Nat
  hour : Nat
  minute : Nat
  second : Nat
  microsecond : Nat
  /-- the distance from universal time in microseconds, if it is known -/
  offset : Option Int

/-- A distance from universal time that is out of range: one of a day or more. -/
def Parts.excessiveOffset? (t : Parts) : Option Int :=
  t.offset.filter fun o => 86400000000 ≤ o.natAbs

/-- The first part of a date or of a time of day that is out of range. -/
def Parts.outOfCalendar? (t : Parts) : Option DatePart :=
  if t.year < 1 ∨ 9999 < t.year then some (.year t.year)
  else if t.month < 1 ∨ 12 < t.month then some .month
  else if t.day < 1 ∨ daysInMonth t.year t.month < t.day then some .day
  else if 23 < t.hour then some .hour
  else if 59 < t.minute then some .minute
  else if 59 < t.second then some .second
  else if 999999 < t.microsecond then some .microsecond
  else none

/-- The first part of a moment that is out of range; its distance from universal time comes
first. -/
def Parts.outOfRange? (t : Parts) : Option DatePart :=
  match t.excessiveOffset? with
  | some o => some (.offset o)
  | none => t.outOfCalendar?

end Moment

/-- A date with a time of day. -/
structure Moment extends Moment.Parts where
  /-- no part is out of range -/
  inRange : toParts.outOfRange? = none

namespace Moment

/-! ### Moments in writing and in seconds -/

/-- A number in decimal, with zeros in front up to a width. -/
def padded (width n : Nat) : String :=
  let digits := digitsOf n
  String.ofList (List.replicate (width - digits.length) '0' ++ digits)

/-- A fraction of a second in writing, unless it is zero. -/
def fractionText (microsecond : Nat) : String :=
  if microsecond = 0 then "" else "." ++ padded 6 microsecond

/-- A distance from universal time in writing: hours, minutes, and seconds unless they are zero. -/
def offsetText (offset : Int) : String :=
  let n := offset.natAbs
  let seconds := n / 1000000
  (if offset < 0 then "-" else "+") ++ padded 2 (seconds / 3600) ++ ":" ++
    padded 2 (seconds / 60 % 60) ++
    if n % 60000000 = 0 then "" else ":" ++ padded 2 (seconds % 60) ++ fractionText (n % 1000000)

/-- A moment in writing. -/
def isoText (t : Moment) : String :=
  padded 4 t.year ++ "-" ++ padded 2 t.month ++ "-" ++ padded 2 t.day ++ "T" ++
    padded 2 t.hour ++ ":" ++ padded 2 t.minute ++ ":" ++ padded 2 t.second ++
    fractionText t.microsecond ++ (t.offset.map offsetText).getD ""

/-- The whole seconds from the start of 1970 to a moment, by its own clock. -/
def clockSeconds (t : Moment) : Int :=
  ((dayNumber t.year t.month t.day : Int) - 719163) * 86400 + t.hour * 3600 + t.minute * 60 +
    t.second

/-- The seconds from the start of 1970 to a moment. With a known distance from universal time they
are the double nearest to the exact number. Without one the seconds and the fraction of a second
are added as doubles, and the first day of year one is out of range, since the day before it is
needed to look for changes of the clock. -/
def timestamp (t : Moment) : Except Fault Float :=
  match t.offset with
  | some offset =>
    let n := t.clockSeconds * 1000000 + t.microsecond - offset
    let magnitude := Float.ofScientific n.natAbs true 6
    .ok (if n < 0 then -magnitude else magnitude)
  | none =>
    if dayNumber t.year t.month t.day ≤ 1 then .error (.outOfRange (.year 0))
    else .ok (Float.ofInt t.clockSeconds + Float.ofNat t.microsecond / 1e6)

end Moment

end Tariff
