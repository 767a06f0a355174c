import Tariff.Match

/-!
# The storefront

What the storefront has to know of the template of a product to let the customer fill it in.

## Main definitions

* `Tariff.Configurator` — the part of a template that the customer sees.
* `Tariff.Configurator.forProduct` — the configurator of a product, if it has a template.
-/

set_option autoImplicit false

namespace Tariff

/-- What a template says about quantities. -/
structure QuantityLimits where
  least : Option Int
  greatest : Option Int
  leastMessage : Option String
  greatestMessage : Option String

/-- The part of a template that the customer sees. -/
structure Configurator where
  id : String
  name : String
  description : Option String
  /-- the fields in the order of display -/
  fields : List Field
  hasExpressOption : Bool
  expressMultiplier : Option Float
  expressLabel : Option String
  normalLabel : Option String
  /-- what is said about quantities, if anything is -/
  quantityLimits : Option QuantityLimits
  discountTiers : List Tier

namespace Configurator

/-- The part of a template that the customer sees. -/
def ofTemplate (t : Template) : Configurator where
  id := t.id
  name := t.name
  description := t.description
  fields := Field.inDisplayOrder t.fields
  hasExpressOption := t.hasExpressOption
  expressMultiplier := t.expressMultiplier
  expressLabel := t.expressLabel
  normalLabel := t.normalLabel
  quantityLimits :=
    if t.limitsQuantity then
      some ⟨t.minQuantity, t.maxQuantity, t.minQuantityMessage, t.maxQuantityMessage⟩
    else none
  discountTiers := t.discountTiers

/-- The configurator of a product, if one of the templates is for it. -/
def forProduct (templates : List Template) (p : Product) : Except Fault (Option Configurator) := do
  .ok ((← Match.best? templates p).map ofTemplate)

end Configurator

end Tariff
