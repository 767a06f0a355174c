import Tariff.Number.Binary

/-!
# Powers

## Main definitions

* `Tariff.Number.power` — the power of two doubles.
* `Tariff.Number.powerOfTen` — a whole power of ten.
-/

set_option autoImplicit false

namespace Tariff.Number

/-- Infinity. -/
def infinity : Float := 1.0 / 0.0

/-- The power of two doubles. Where finite operands have an infinite one it is positive, be it too
large for a double or the inverse of a zero of either sign. -/
def power (base exponent : Float) : Float :=
  let result := Float.pow base exponent
  if base.isFinite && exponent.isFinite && result.isInf then infinity else result

/-- A whole power of ten. Up to `10 ^ 22` they and their inverses are the nearest doubles; beyond,
they come from the general power. -/
def powerOfTen (n : Int) : Float :=
  if n.natAbs ≤ 22 then Float.ofScientific 1 (n < 0) n.natAbs
  else Float.pow 10.0 (Float.ofInt n)

end Tariff.Number
