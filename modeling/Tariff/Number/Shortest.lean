import Tariff.Number.Binary

/-!
# The shortest decimal of a double

Of the decimals that read back as a given double, the one with the fewest digits is written, and
of several such the nearest to the double.

## Main definitions

* `Tariff.Number.Decimal` — a whole number times a power of ten.
* `Tariff.Number.Interval` — the numbers that round to a given double.
* `Tariff.Number.Interval.point?` — the decimal of one grid that stands for the double.
* `Tariff.Number.shortest` — the point of the coarsest grid that has one.
-/

set_option autoImplicit false

namespace Tariff.Number

/-- The number `digits * 10 ^ exponent`. -/
structure Decimal where
  /-- the digits, as one whole number -/
  digits : Nat
  /-- the power of ten that scales them -/
  exponent : Int

/-- The numbers that round to a given double. The double and the two ends are whole multiples of
`2 ^ exponent`; the ends belong to the interval when the significand is even. -/
structure Interval where
  /-- the lower end -/
  low : Nat
  /-- the double itself -/
  value : Nat
  /-- the upper end -/
  high : Nat
  /-- whether the ends round to the double, too -/
  closed : Bool
  /-- the power of two that scales the three numbers -/
  exponent : Int

/-- The numbers that round to `significand * 2 ^ exponent`. The next double below a power of two
is only half as far away as the next one above. -/
def Interval.around (significand : Nat) (exponent : Int) : Interval where
  low := if significand = twoPow 52 ∧ -1074 < exponent then 4 * significand - 1
    else 4 * significand - 2
  value := 4 * significand
  high := 4 * significand + 2
  closed := significand % 2 = 0
  exponent := exponent - 2

/-- The point of the grid of multiples of `10 ^ grid` that stands for the double: the nearer of
its two neighbours on the grid if it lies in the interval, else the other if that one does. A tie
goes to the even neighbour. -/
def Interval.point? (i : Interval) (grid : Int) : Option Decimal :=
  let unit := twoPow i.exponent.toNat * tenPow (-grid).toNat
  let step := twoPow (-i.exponent).toNat * tenPow grid.toNat
  let below := i.value * unit / step
  let inside (a : Nat) : Bool :=
    if i.closed then i.low * unit ≤ a * step && a * step ≤ i.high * unit
    else i.low * unit < a * step && a * step < i.high * unit
  let downward := i.value * unit - below * step
  let upward := (below + 1) * step - i.value * unit
  let downFirst := downward < upward || (downward == upward && below % 2 == 0)
  if inside below && (downFirst || !inside (below + 1)) then some ⟨below, grid⟩
  else if inside (below + 1) then some ⟨below + 1, grid⟩
  else none

/-- The point of the first grid that has one, from `10 ^ grid` to finer grids. -/
def Interval.search (i : Interval) (grid : Int) : Nat → Option Decimal
  | 0 => none
  | steps + 1 =>
    match i.point? grid with
    | some d => some d
    | none => i.search (grid - 1) steps

/-- The shortest decimal of `significand * 2 ^ exponent`. A grid as coarse as the number itself
comes first, and one with seventeen digits always has a point. -/
def shortest (significand : Nat) (exponent : Int) : Decimal :=
  let size : Int := (Nat.log2 significand + exponent) * 30103 / 100000 + 2
  ((Interval.around significand exponent).search size 24).getD ⟨0, 0⟩

end Tariff.Number
