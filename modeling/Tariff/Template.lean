import Tariff.Moment
import Tariff.Template.Field
import Tariff.Template.Tier

/-!
# Templates

A template is a named rule for a price: a formula with the fields it uses, the products it is for,
and what the merchant offers around it.

## Main definitions

* `Tariff.Scope` — the kinds of products that a template can be for.
* `Tariff.Template` — a template.
* `Tariff.Template.variableFields`, `Tariff.Template.variableKeys` — what its formula may use.
-/

set_option autoImplicit false

namespace Tariff

/-- The kinds of products that a template can be for. -/
inductive Scope where
  /-- all products -/
  | global
  /-- products by their id -/
  | product
  /-- products of a collection -/
  | collection
  /-- products of a vendor -/
  | vendor
  /-- products with a tag -/
  | tag
  deriving DecidableEq

namespace Scope

/-- The name of a scope. -/
def name : Scope → String
  | global => "GLOBAL"
  | product => "PRODUCT"
  | collection => "COLLECTION"
  | vendor => "VENDOR"
  | tag => "TAG"

/-- All scopes. -/
def all : List Scope :=
  [global, product, collection, vendor, tag]

/-- The scope of a name. -/
def ofName? (s : String) : Option Scope :=
  all.find? (·.name == s)

/-- How special a scope is: a template of a higher rank wins. -/
def rank : Scope → Nat
  | product => 5
  | collection => 4
  | vendor => 3
  | tag => 2
  | global => 1

end Scope

/-- A named rule for a price. -/
structure Template where
  id : String
  name : String
  /-- the formula of the price, if there is one -/
  formula : Option String
  scope : Scope
  /-- the ids, collections, vendors or tags of the scope -/
  scopeValues : List String
  fields : List Field
  isActive : Bool
  description : Option String
  /-- whether the customer may pay for a faster delivery -/
  hasExpressOption : Bool
  expressMultiplier : Option Float
  expressLabel : Option String
  normalLabel : Option String
  minQuantity : Option Int
  maxQuantity : Option Int
  minQuantityMessage : Option String
  maxQuantityMessage : Option String
  discountTiers : List Tier
  /-- what decides between templates of one scope: the higher wins -/
  priority : Int
  /-- what decides between templates of one priority: the later wins -/
  createdAt : Option Moment

namespace Template

/-- The first field of a key. -/
def field? (t : Template) (key : String) : Option Field :=
  t.fields.find? (·.key == key)

/-- The fields that give a number to the formula, in the order of display. -/
def variableFields (t : Template) : List Field :=
  Field.inDisplayOrder (t.fields.filter Field.givesNumber)

/-- The keys of those fields. -/
def variableKeys (t : Template) : List String :=
  t.variableFields.map (·.key)

/-- Whether the template says anything about quantities. -/
def limitsQuantity (t : Template) : Bool :=
  t.minQuantity.isSome || t.maxQuantity.isSome || t.minQuantityMessage.isSome ||
    t.maxQuantityMessage.isSome

end Template

end Tariff
