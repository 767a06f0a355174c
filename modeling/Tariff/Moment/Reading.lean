import Tariff.Moment

/-!
# Reading a moment

A date is written with a month and a day or with a week and a day of the week, with or without
hyphens. After it may stand one separating character of any kind and a time of day, and after the
time a distance from universal time in the same form.

## Main definitions

* `Tariff.Moment.readDate?` — a date.
* `Tariff.Moment.readClock?` — a time of day, or a distance from universal time.
* `Tariff.Moment.read` — a moment.
-/

set_option autoImplicit false

namespace Tariff.Moment

/-- The number that exactly so many ASCII digits at the start of a text denote, and the rest. -/
def takeNumber? (count : Nat) (cs : List Char) : Option (Nat × List Char) :=
  let digits := cs.take count
  if digits.length = count ∧ digits.all Char.isDigit then
    some (digits.foldl (fun n c => 10 * n + (c.toNat - '0'.toNat)) 0, cs.drop count)
  else none

/-- Takes a hyphen off a text, if the text uses them. -/
def takeHyphen? (hyphens : Bool) (cs : List Char) : Option (List Char) :=
  match hyphens, cs with
  | false, cs => some cs
  | true, '-' :: rest => some rest
  | true, _ => none

/-- The date of a day of a week of a year. The weeks of year zero lie before the calendar and have
no month. -/
def weekDate? (year week day : Nat) : Option (Nat × Nat × Nat) :=
  let weekExists := 1 ≤ week ∧ (week ≤ 52 ∨ (week = 53 ∧ hasWeek53 year))
  if weekExists ∧ 1 ≤ day ∧ day ≤ 7 then
    some (if year = 0 then (1, 0, 0) else dateOf (firstMonday year + (week - 1) * 7 + day - 1))
  else none

/-- Reads a week and the day of the week, which is the first one if it is left out. -/
def readWeek? (year : Nat) (hyphens : Bool) (cs : List Char) : Option (Nat × Nat × Nat) := do
  let (week, rest) ← takeNumber? 2 cs
  if rest.isEmpty then weekDate? year week 1
  else
    let (day, _) ← takeNumber? 1 (← takeHyphen? hyphens rest)
    weekDate? year week day

/-- Reads a date, of which a month or a day may still be out of range. -/
def readDate? (cs : List Char) : Option (Nat × Nat × Nat) := do
  let (year, rest) ← takeNumber? 4 cs
  let hyphens := rest.head? == some '-'
  let rest ← takeHyphen? hyphens rest
  match rest with
  | 'W' :: rest => readWeek? year hyphens rest
  | _ =>
    let (month, rest) ← takeNumber? 2 rest
    let (day, _) ← takeNumber? 2 (← takeHyphen? hyphens rest)
    some (year, month, day)

/-- The length of the date at the start of a text. In a date by the week, digits after the week
belong in pairs to the time, so an odd one is the day of the week. -/
def dateLength (cs : List Char) : Nat :=
  if cs.length = 7 then 7
  else if cs[4]? == some '-' then
    if cs[5]? == some 'W' then
      if cs[8]? == some '-' then
        if cs[10]?.any Char.isDigit then 8 else 10
      else 8
    else 10
  else if cs[4]? == some 'W' then
    let pastDigits := 7 + ((cs.drop 7).takeWhile Char.isDigit).length
    if pastDigits < 9 then pastDigits
    else if pastDigits % 2 = 0 then 7
    else 8
  else 8

/-- A time of day, or the magnitude of a distance from universal time. -/
structure Clock where
  hour : Nat
  minute : Nat
  second : Nat
  microsecond : Nat
  /-- whether nothing stands between the time and the end of the text -/
  complete : Bool

/-- Whether a text, in front of `next`, is at its end. -/
def atEnd (next : Char) (cs : List Char) : Bool :=
  cs.head?.getD next == '\x00'

/-- Reads the fraction of a second, of which six digits count. -/
def readFraction? (next : Char) (hour minute second : Nat) (cs : List Char) : Option Clock := do
  let count := min 6 cs.length
  let (n, rest) ← takeNumber? count cs
  let microsecond := n * Number.tenPow (6 - count)
  some ⟨hour, minute, second, microsecond, atEnd next (rest.dropWhile Char.isDigit)⟩

/-- What stands after a pair of digits of a time. -/
inductive AfterPair where
  /-- nothing, or one more ASCII character -/
  | last
  /-- another pair, or the fraction after the seconds -/
  | pair (cs : List Char)
  /-- the fraction -/
  | fraction (cs : List Char)

/-- Tells what stands after a pair of digits. The first separator decides whether all pairs are
separated. -/
def afterPair? (colons : Bool) (cs : List Char) : Option AfterPair :=
  match cs with
  | [] => some .last
  | [c] => if c.toNat < 0x80 then some .last else none
  | c :: rest =>
    if colons && c == ':' then some (.pair rest)
    else if c == '.' || c == ',' then some (.fraction rest)
    else if !colons then some (.pair cs)
    else none

/-- Reads a time of day. `next` is the character after the text. -/
def readClock? (next : Char) (cs : List Char) : Option Clock := do
  let (hour, afterHour) ← takeNumber? 2 cs
  let colons := afterHour.head? == some ':'
  match ← afterPair? colons afterHour with
  | .last => some ⟨hour, 0, 0, 0, atEnd next afterHour⟩
  | .fraction rest => readFraction? next hour 0 0 rest
  | .pair rest =>
    let (minute, afterMinute) ← takeNumber? 2 rest
    match ← afterPair? colons afterMinute with
    | .last => some ⟨hour, minute, 0, 0, atEnd next afterMinute⟩
    | .fraction rest => readFraction? next hour minute 0 rest
    | .pair rest =>
      let (second, afterSecond) ← takeNumber? 2 rest
      match ← afterPair? colons afterSecond with
      | .last => some ⟨hour, minute, second, 0, atEnd next afterSecond⟩
      | .fraction rest | .pair rest => readFraction? next hour minute second rest

/-- The distance from universal time that a clock stands for. Less than a second counts as none. -/
def Clock.offset (clock : Clock) (negative : Bool) : Int :=
  let seconds := clock.hour * 3600 + clock.minute * 60 + clock.second
  let magnitude : Int := if seconds = 0 then 0 else seconds * 1000000 + clock.microsecond
  if negative then -magnitude else magnitude

/-- Whether a character starts the distance from universal time. -/
def isOffsetSign (c : Char) : Bool :=
  c == '+' || c == '-'

/-- Reads a time of day with an optional distance from universal time. -/
def readTime? (cs : List Char) : Option (Clock × Option Int) :=
  match cs.dropWhile fun c => !isOffsetSign c with
  | [] => do
    let clock ← readClock? '\x00' cs
    if clock.complete then some (clock, none) else none
  | sign :: rest => do
    let clock ← readClock? sign (cs.takeWhile fun c => !isOffsetSign c)
    let distance ← readClock? '\x00' rest
    if distance.complete then some (clock, some (distance.offset (sign == '-'))) else none

/-- The moment of some parts, if they are in range. -/
def ofParts (parts : Parts) : Except Fault Moment :=
  match h : parts.outOfRange? with
  | some part => .error (.outOfRange part)
  | none => .ok ⟨parts, h⟩

/-- The moment of a date and a time of day that were read, if they are in range. -/
def ofReading (date : Nat × Nat × Nat) (clock : Clock) (offset : Option Int) :
    Except Fault Moment :=
  ofParts ⟨date.1, date.2.1, date.2.2, clock.hour, clock.minute, clock.second, clock.microsecond,
    offset⟩

/-- Reads a moment. -/
def read (s : String) : Except Fault Moment :=
  let cs := s.toList
  let length := dateLength cs
  match readDate? (cs.take length), cs.drop length with
  | none, _ => .error (.badMoment s)
  | some date, [] => ofReading date ⟨0, 0, 0, 0, true⟩ none
  | some date, _ :: time =>
    match readTime? time with
    | none => .error (.badMoment s)
    | some (clock, offset) => ofReading date clock offset

end Tariff.Moment
