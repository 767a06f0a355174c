/-!
# Fields of a template

A field asks the customer for a value. Fields of some types give a number to the formula.

## Main definitions

* `Tariff.FieldType` — the types of fields.
* `Tariff.FieldOption` — one of the values that a field lets choose from.
* `Tariff.Field` — a field; `Field.givesNumber` says whether it gives a number to the formula.
-/

set_option autoImplicit false

namespace Tariff

/-- The types of fields. -/
inductive FieldType where
  | number | text | select | radio | checkbox | textarea | file | quantitySelector
  deriving DecidableEq

namespace FieldType

/-- The name of a type. -/
def name : FieldType → String
  | number => "NUMBER"
  | text => "TEXT"
  | select => "SELECT"
  | radio => "RADIO"
  | checkbox => "CHECKBOX"
  | textarea => "TEXTAREA"
  | file => "FILE"
  | quantitySelector => "QUANTITY_SELECTOR"

/-- All types. -/
def all : List FieldType :=
  [number, text, select, radio, checkbox, textarea, file, quantitySelector]

/-- The type of a name. -/
def ofName? (s : String) : Option FieldType :=
  all.find? (·.name == s)

/-- Whether a value of a field of this type is a number. -/
def isNumeric : FieldType → Bool
  | text | textarea | file => false
  | _ => true

/-- Whether a field of this type lets choose from options. -/
def hasOptions : FieldType → Bool
  | select | radio | checkbox => true
  | _ => false

end FieldType

/-- One of the values that a field lets choose from. -/
structure FieldOption where
  value : String
  label : String
  /-- what the choice adds to the value of the field, if that is given -/
  price : Option Float

/-- What the choice of an option adds to the value of its field: its price, and zero without sign if
it has none or that is a zero. -/
def FieldOption.delta (o : FieldOption) : Float :=
  match o.price with
  | some x => if x == 0.0 then 0.0 else x
  | none => 0.0

/-- A field of a template. -/
structure Field where
  /-- the name of the field in the formula and in what the customer submits -/
  key : String
  type : FieldType
  label : String
  required : Bool
  useInFormula : Bool
  options : List FieldOption
  /-- the place of the field on display -/
  order : Int

namespace Field

/-- Whether a field gives a number to the formula. -/
def givesNumber (f : Field) : Bool :=
  f.useInFormula && f.type.isNumeric

/-- The first option of a value. -/
def option? (f : Field) (value : String) : Option FieldOption :=
  f.options.find? (·.value == value)

/-- Fields in the order of display; fields of one place keep their order. -/
def inDisplayOrder (fields : List Field) : List Field :=
  fields.mergeSort fun a b => a.order ≤ b.order

end Field

end Tariff
