/-!
# Discount tiers

A tier gives a discount for a range of quantities. Where ranges overlap, the tier that starts at
the greatest quantity counts.

## Main definitions

* `Tariff.Tier` — a tier; `Tier.contains` says which quantities it covers.
* `Tariff.Tier.find?` — the tier that counts for a quantity.
* `Tariff.Tier.discountFor` — its discount.
* `Tariff.Tier.overlaps` — the pairs of tiers with a quantity in common.
-/

set_option autoImplicit false

namespace Tariff

/-- A discount for a range of quantities. -/
structure Tier where
  /-- the least quantity -/
  minimum : Int
  /-- the greatest quantity, if there is one -/
  maximum : Option Int
  /-- the discount in percent -/
  discount : Float

namespace Tier

/-- Whether a tier covers a quantity. -/
def contains (t : Tier) (quantity : Int) : Bool :=
  t.minimum ≤ quantity && t.maximum.all (quantity ≤ ·)

/-- Tiers from the greatest least quantity down; equal ones keep their order. -/
def descending (tiers : List Tier) : List Tier :=
  tiers.mergeSort fun a b => b.minimum ≤ a.minimum

/-- Tiers from the smallest least quantity up; equal ones keep their order. -/
def ascending (tiers : List Tier) : List Tier :=
  tiers.mergeSort fun a b => a.minimum ≤ b.minimum

/-- The tier that counts for a quantity. -/
def find? (tiers : List Tier) (quantity : Int) : Option Tier :=
  (descending tiers).find? (·.contains quantity)

/-- The discount for a quantity in percent. -/
def discountFor (tiers : List Tier) (quantity : Int) : Float :=
  match find? tiers quantity with
  | some t => t.discount
  | none => 0.0

/-- Whether a tier reaches the start of one that does not start before it. -/
def reaches (lower upper : Tier) : Bool :=
  lower.maximum.all (upper.minimum ≤ ·)

/-- The pairs of a tier and a later one whose start it reaches. -/
def reachingPairs : List Tier → List (Tier × Tier)
  | [] => []
  | lower :: rest => (rest.filter lower.reaches).map (lower, ·) ++ reachingPairs rest

/-- The pairs of tiers with a quantity in common, the one that starts first in front. -/
def overlaps (tiers : List Tier) : List (Tier × Tier) :=
  reachingPairs (ascending tiers)

end Tier

end Tariff
