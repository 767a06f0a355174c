/-!
# Doubles as exact numbers

A finite double is a whole number times a power of two. Whole parts and decimal digits are
computed from that form in exact arithmetic.

## Main definitions

* `Tariff.Number.twoPow`, `Tariff.Number.tenPow` — the whole powers of two and ten.
* `Tariff.Number.Binary` — a double taken apart; `Binary.ofFloat` takes it apart.
* `Tariff.Number.Ratio` — a fraction of whole numbers; `ratio?` is the value of a finite double.
* `Tariff.Number.floor?`, `ceiling?`, `truncation?` — the whole numbers beside a finite double.
* `Tariff.Number.ofInt?` — the double nearest to a whole number.
-/

set_option autoImplicit false

namespace Tariff.Number

/-- A double taken apart. -/
inductive Binary where
  /-- not a number -/
  | nan
  /-- an infinity -/
  | infinite (negative : Bool)
  /-- the number `± significand * 2 ^ exponent` -/
  | finite (negative : Bool) (significand : Nat) (exponent : Int)

/-- A power of two as a whole number. -/
def twoPow (n : Nat) : Nat :=
  Nat.pow 2 n

/-- A power of ten as a whole number. -/
def tenPow (n : Nat) : Nat :=
  Nat.pow 10 n

/-- Whether the sign bit of a double is set. -/
def isNegative (x : Float) : Bool :=
  twoPow 63 ≤ x.toBits.toNat

/-- Takes a double apart along the three fields of its bits. -/
def Binary.ofFloat (x : Float) : Binary :=
  let field : Nat := x.toBits.toNat / twoPow 52 % twoPow 11
  let fraction : Nat := x.toBits.toNat % twoPow 52
  if field = 2047 then
    if fraction = 0 then .infinite (isNegative x) else .nan
  else if field = 0 then .finite (isNegative x) fraction (-1074)
  else .finite (isNegative x) (twoPow 52 + fraction) (field - 1075)

/-- A fraction; its denominator is not zero. -/
structure Ratio where
  /-- what is divided -/
  numerator : Int
  /-- what it is divided by -/
  denominator : Nat

/-- A whole number times a power of two. -/
def Ratio.scaled (significand : Int) (exponent : Int) : Ratio :=
  ⟨significand * twoPow exponent.toNat, twoPow (-exponent).toNat⟩

/-- The value of a finite double. -/
def ratio? (x : Float) : Option Ratio :=
  match Binary.ofFloat x with
  | .finite negative m q => some (Ratio.scaled (if negative then -m else m) q)
  | _ => none

/-- The greatest whole number that is at most a fraction. -/
def Ratio.floor (r : Ratio) : Int :=
  r.numerator.fdiv r.denominator

/-- The least whole number that is at least a fraction. -/
def Ratio.ceiling (r : Ratio) : Int :=
  -((-r.numerator).fdiv r.denominator)

/-- A fraction without its part after the point. -/
def Ratio.truncation (r : Ratio) : Int :=
  r.numerator.tdiv r.denominator

/-- Whether a fraction is a whole number. -/
def Ratio.isWhole (r : Ratio) : Bool :=
  r.numerator.fmod r.denominator == 0

/-- The greatest whole number that is at most a finite double. -/
def floor? (x : Float) : Option Int :=
  (ratio? x).map Ratio.floor

/-- The least whole number that is at least a finite double. -/
def ceiling? (x : Float) : Option Int :=
  (ratio? x).map Ratio.ceiling

/-- A finite double without its part after the point. -/
def truncation? (x : Float) : Option Int :=
  (ratio? x).map Ratio.truncation

/-- Whether a double is a whole number; no infinity is. -/
def isWhole (x : Float) : Bool :=
  (ratio? x).any Ratio.isWhole

/-- The double nearest to a whole number, unless it lies beyond the finite doubles. -/
def ofInt? (n : Int) : Option Float :=
  let x := Float.ofInt n
  if x.isFinite then some x else none

/-- A magnitude with the sign of another double. -/
def withSign (magnitude signed : Float) : Float :=
  if isNegative signed then -magnitude else magnitude

end Tariff.Number
