import Tariff.Failure
import Tariff.Money.Rounding
import Tariff.Value.Scalar

/-!
# The breakdown of a price

A price is shown with the lines it is made of. Each line is rounded on its own.

## Main definitions

* `Tariff.Breakdown.Line` — a line.
* `Tariff.Breakdown.lines` — the lines of a price.
-/

set_option autoImplicit false

namespace Tariff.Breakdown

open Tariff.Money Tariff.Number

/-- The kinds of lines. -/
inductive Kind where
  | base | calculation | addon | total
  deriving DecidableEq

/-- The word for a kind of line. -/
def Kind.word : Kind → String
  | .base => "base"
  | .calculation => "calculation"
  | .addon => "addon"
  | .total => "total"

/-- A line: what it is about, and the amount. -/
structure Line where
  label : String
  amount : Float
  kind : Kind

/-- What a price is made of. -/
structure Parts where
  basePrice : Float
  /-- the price of one piece without the express option -/
  unitPrice : Float
  quantity : Int
  isExpress : Bool
  expressMultiplier : Float
  /-- the discount in percent -/
  discountPercent : Float
  discountAmount : Float

/-- The price of one piece, with the express option if it is taken. -/
def Parts.effectiveUnitPrice (p : Parts) : Float :=
  if p.isExpress then p.unitPrice * p.expressMultiplier else p.unitPrice

/-- A line, if there is one. -/
def lineIf (condition : Bool) (label : String) (amount : Float) (kind : Kind) : List Line :=
  if condition then [⟨label, toCents amount, kind⟩] else []

/-- The lines of a price: base, unit, express option, quantity, discount and total. -/
def lines (p : Parts) : Except Fault (List Line) := do
  let subtotal := p.effectiveUnitPrice * (← (Value.int p.quantity).toFloat)
  .ok <|
    lineIf true "Product base price" p.basePrice .base ++
    lineIf true "Calculated unit price" p.unitPrice .calculation ++
    lineIf p.isExpress ("Express production (×" ++ generalText p.expressMultiplier ++ ")")
      p.effectiveUnitPrice .addon ++
    lineIf (1 < p.quantity) ("Quantity (" ++ integerText p.quantity ++ " pcs)") subtotal .addon ++
    lineIf (0.0 < p.discountPercent)
      ("Quantity discount (-" ++ generalText p.discountPercent ++ "%)")
      (-p.discountAmount) .addon ++
    lineIf true "Total" (subtotal - p.discountAmount) .total

end Tariff.Breakdown
