import Tariff.Fault
import Tariff.Number.Power

/-!
# Rounding of amounts

An amount is rounded half away from zero: it is scaled, one half is added to its magnitude, and
what is after the point is dropped.

## Main definitions

* `Tariff.Money.roundWith` — rounding with a given scale.
* `Tariff.Money.roundTo` — rounding to a number of decimals.
* `Tariff.Money.toCents` — rounding to two decimals.
-/

set_option autoImplicit false

namespace Tariff.Money

open Tariff.Number

/-- Rounds to a multiple of the inverse of `scale`, half away from zero. What is infinite or not a
number stays as it is, and so does what is too large to carry digits of that scale. A zero comes
out without sign. -/
def roundWith (scale x : Float) : Float :=
  let scaled := x.abs * scale
  if !x.isFinite || !scaled.isFinite || scale == 0.0 then x
  else withSign (Float.ofInt ((floor? (scaled + 0.5)).getD 0) / scale) x + 0.0

/-- Rounds to a number of decimals, which is negative to round to tens and more. The scale must be
a double; for a number that is not finite it does not matter. -/
def roundTo (x : Float) (decimals : Int) : Except Fault Float :=
  if !x.isFinite then .ok x
  else match ofInt? decimals with
    | none => .error .tooLarge
    | some _ =>
      let scale := powerOfTen decimals
      if scale.isFinite then .ok (roundWith scale x) else .error .tooLarge

/-- Rounds an amount of money to two decimals, as every amount that leaves the library. -/
def toCents (x : Float) : Float :=
  roundWith 100.0 x

end Tariff.Money
