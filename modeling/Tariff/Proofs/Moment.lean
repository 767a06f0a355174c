import Tariff.Moment
import Tariff.Proofs.Number.Magnitude

/-!
# The seconds of a moment

The calendar ends with the year 9999, so the seconds of a moment are not too large for a double.

## Main results

* `Tariff.Moment.natAbs_clockSeconds_lt` — a bound for the seconds by the clock of a moment.
* `Tariff.Moment.isFinite_timestamp` — the seconds of a moment are a finite double.
-/

set_option autoImplicit false

namespace Tariff.Moment

open Tariff.Number

variable {t : Moment}

/-! ### Days -/

/-- A month has at most 31 days. -/
lemma daysInMonth_le (year month : Nat) : daysInMonth year month ≤ 31 := by
  rw [daysInMonth]
  grind

/-- Some months have at most 31 days each. -/
lemma daysBeforeMonth_le (year month : Nat) : daysBeforeMonth year month ≤ (month - 1) * 31 := by
  rw [daysBeforeMonth]
  induction month - 1 with
  | zero => exact Nat.le_refl _
  | succ n ih =>
    rw [List.range_succ, List.foldl_append, List.foldl_cons, List.foldl_nil, Nat.add_one_mul]
    exact Nat.add_le_add ih (daysInMonth_le _ _)

/-- Some years have at most 366 days each. -/
lemma daysBeforeYear_le (year : Nat) : daysBeforeYear year ≤ (year - 1) * 366 := by
  rw [daysBeforeYear]
  omega

/-! ### Moments -/

/-- A moment has no excessive distance from universal time. -/
lemma natAbs_offset_lt {offset : Int} (h : t.offset = some offset) :
    offset.natAbs < 86400000000 := by
  have hrange := t.inRange
  rw [Parts.outOfRange?, Parts.excessiveOffset?, h, Option.filter_some] at hrange
  split at hrange
  · contradiction
  · rename_i hnone
    simpa using hnone

/-- The parts of a moment are those of the calendar and of the clock. -/
lemma outOfCalendar?_eq_none : t.outOfCalendar? = none := by
  have hrange := t.inRange
  rw [Parts.outOfRange?] at hrange
  split at hrange
  · contradiction
  · exact hrange

/-- The parts of a moment are bounded. -/
lemma parts_le : t.year ≤ 9999 ∧ t.month ≤ 12 ∧ t.day ≤ 31 ∧ t.hour ≤ 23 ∧ t.minute ≤ 59 ∧
    t.second ≤ 59 ∧ t.microsecond ≤ 999999 := by
  have hrange := t.outOfCalendar?_eq_none
  have hday := daysInMonth_le t.year t.month
  rw [Parts.outOfCalendar?] at hrange
  repeat' split at hrange
  any_goals contradiction
  omega

/-- The clock of a moment shows less than 550 billion seconds before or after the start of
1970. -/
lemma natAbs_clockSeconds_lt : t.clockSeconds.natAbs < 2 ^ 39 := by
  obtain ⟨hyear, hmonth, hday, hhour, hminute, hsecond, -⟩ := t.parts_le
  have hyears := daysBeforeYear_le t.year
  have hmonths := daysBeforeMonth_le t.year t.month
  rw [clockSeconds, dayNumber]
  omega

/-- **The seconds of a moment are a finite double.** -/
theorem isFinite_timestamp {x : Float} (h : t.timestamp = .ok x) : x.isFinite = true := by
  have hclock := t.natAbs_clockSeconds_lt
  obtain ⟨-, -, -, -, -, -, hmicro⟩ := t.parts_le
  rw [timestamp] at h
  split at h
  · rename_i offset hoffset
    have hdistance := natAbs_offset_lt hoffset
    obtain rfl := Except.ok.inj h
    have hn : (t.clockSeconds * 1000000 + t.microsecond - offset).natAbs < 2 ^ 60 := by omega
    have hmagnitude := isBelow_ofScientific hn (by omega)
    split
    · exact (hmagnitude.neg (by omega) (by omega)).isFinite
    · exact hmagnitude.isFinite
  · split at h
    · contradiction
    · obtain rfl := Except.ok.inj h
      have hseconds := isBelow_ofInt hclock (by omega)
      have hword : t.microsecond < 2 ^ 20 := by omega
      have hfraction := (isBelow_ofNat hword (by omega)).div unpack_million (by omega) (by omega)
      exact ((hseconds.mono (by omega)).add hfraction (by omega) (by omega)).isFinite

end Tariff.Moment
