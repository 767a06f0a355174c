import Tariff.Money.Rounding
import Tariff.Number.Written

/-!
# Amounts on display

An amount is shown with a space between thousands and a suffix. Some currencies have no decimals.

## Main definitions

* `Tariff.Money.hasNoDecimals` — the currencies without decimals.
* `Tariff.Money.amountText` — an amount without suffix.
* `Tariff.Money.display` — an amount with its suffix.
-/

set_option autoImplicit false

namespace Tariff.Money

open Tariff.Number

/-- Whether a currency is shown without decimals. -/
def hasNoDecimals (currency : String) : Bool :=
  currency == "HUF" || currency == "JPY" || currency == "KRW"

/-- The whole number of a double without its part after the point. -/
def wholeAmount (x : Float) : Except Fault Int :=
  match truncation? x with
  | some n => .ok n
  | none => .error (if x.isNaN then .nanAsInteger else .infinityAsInteger)

/-- A whole number with a space between thousands. -/
def groupedInteger (n : Int) : String :=
  String.ofList (signed (n < 0) (grouped ' ' (digitsOf n.natAbs)))

/-- An amount without its suffix: rounded to a whole number for a currency without decimals, and
to two decimals for any other. -/
def amountText (amount : Float) (currency : String) : Except Fault String :=
  if hasNoDecimals currency then (wholeAmount (roundWith 1.0 amount)).map groupedInteger
  else .ok (fixedWith (grouped ' ') 2 (toCents amount))

/-- An amount with its suffix, or with the currency where there is none. -/
def display (amount : Float) (currency : String) (suffix : Option String) :
    Except Fault String := do
  let text ← amountText amount currency
  let ending :=
    match suffix with
    | some s => if s.isEmpty then currency else s
    | none => currency
  .ok (text ++ " " ++ ending)

end Tariff.Money
