import Tariff.Template
import Tariff.Value.Scalar

/-!
# Entries of a snapshot

A template is read from an object. Most members may be left out, and most scalars may be written
as text.

## Main definitions

* `Tariff.Field.ofValue`, `Tariff.Tier.ofValue`, `Tariff.Template.ofValue` — what an object stands
  for.
-/

set_option autoImplicit false

namespace Tariff

open Tariff.Text

/-- An option of a field. -/
def FieldOption.ofValue (v : Value) : Except Fault FieldOption := do
  let value ← Value.shownOr (← v.find "value") ""
  let label ← Value.shownOr (← v.find "label") ""
  let modifier ← v.get "priceModifier"
  let price ← ((← v.find "price").getD modifier).toFloat?
  .ok ⟨value, label, price⟩

/-- A type of field by its name in letters of any case; a number if none is named. -/
def FieldType.ofValue (v : Option Value) : Except Fault FieldType := do
  let name := upper (← Value.shownOr v "NUMBER")
  match FieldType.ofName? name with
  | some type => .ok type
  | none => .error (.unknownFieldType name)

/-- The label of a field: its key, where none is given. -/
def Field.labelOf (given : Value) (key : String) : Except Fault String :=
  if given.isVoid then .ok key else given.shown

/-- The field at a place, counted from zero. -/
def Field.ofValue (v : Value) (place : Nat) : Except Fault Field := do
  let some key ← (← v.get "key").toText? | .error (.fieldWithoutKey (place + 1))
  let options ← (← (← v.get "options").itemsIfAny).mapM FieldOption.ofValue
  let order ← (← v.get "order").toInt?
  let type ← FieldType.ofValue (← v.find "type")
  let label ← Field.labelOf (← v.get "label") key
  let required ← (← v.get "required").toBool false
  let useInFormula ← (← v.get "useInFormula").toBool true
  .ok { key, type, options, label, required, useInFormula, order := order.getD place }

/-- The fields of a list, from a place on. -/
def Field.ofValues (place : Nat) : List Value → Except Fault (List Field)
  | [] => .ok []
  | v :: rest => do
    let field ← Field.ofValue v place
    let others ← Field.ofValues (place + 1) rest
    .ok (field :: others)

/-- A tier. -/
def Tier.ofValue (v : Value) : Except Fault Tier := do
  let minimum ← (← v.require "minQty").toInt
  let maximum ← (← v.get "maxQty").toInt?
  let discount ← (← v.require "discount").toFloat
  .ok ⟨minimum, maximum, discount⟩

/-- A scope by its name in letters of any case; all products if none is named. -/
def Scope.ofValue (v : Option Value) : Except Fault Scope := do
  let name := upper (← Value.shownOr v "GLOBAL")
  match Scope.ofName? name with
  | some scope => .ok scope
  | none => .error (.unknownScope name)

/-- The fields of a template: its own and those of its sections. -/
def Template.fieldValues (v : Value) : Except Fault (List Value) := do
  let own ← (← v.get "fields").itemsIfAny
  let sections ← (← v.get "sections").itemsIfAny
  let inSections ← sections.mapM fun s => do (← s.get "fields").itemsIfAny
  .ok (own ++ inSections.flatten)

/-- A template. -/
def Template.ofValue (v : Value) : Except Fault Template := do
  let some id ← (← v.get "id").toText? | .error .templateWithoutId
  let formula ← v.get "pricingFormula"
  if formula matches .null then .error .templateWithoutFormula
  let fields ← Field.ofValues 0 (← Template.fieldValues v)
  let discountTiers ← (← (← v.get "discountTiers").itemsIfAny).mapM Tier.ofValue
  let name ← (← v.get "name").toText?
  let formulaText ← formula.shown
  let scope ← Scope.ofValue (← v.find "scopeType")
  let scopeValues ← (← (← v.get "scopeValues").itemsIfAny).mapM Value.shown
  let isActive ← (← v.get "isActive").toBool true
  let description ← (← v.get "description").toText?
  let hasExpressOption ← (← v.get "hasExpressOption").toBool false
  let expressMultiplier ← (← v.get "expressMultiplier").toFloat?
  let expressLabel ← (← v.get "expressLabel").toText?
  let normalLabel ← (← v.get "normalLabel").toText?
  let minQuantity ← (← v.get "minQuantity").toInt?
  let maxQuantity ← (← v.get "maxQuantity").toInt?
  let minQuantityMessage ← (← v.get "minQuantityMessage").toText?
  let maxQuantityMessage ← (← v.get "maxQuantityMessage").toText?
  let priority ← (← v.get "priority").toInt?
  let createdAt ← (← v.get "createdAt").toMoment?
  .ok {
    id, scope, scopeValues, fields, isActive, description, hasExpressOption
    expressMultiplier, expressLabel, normalLabel, minQuantity, maxQuantity
    minQuantityMessage, maxQuantityMessage, discountTiers, createdAt
    name := name.getD id
    formula := some formulaText
    priority := priority.getD 0 }

end Tariff
