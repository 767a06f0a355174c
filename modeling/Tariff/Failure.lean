import Tariff.Fault
import Tariff.Formula.Error

/-!
# Failures

Why a request has no answer. Most failures are for the customer or the merchant to read; a fault
of the data that was handed in is one of its own kind.

## Main definitions

* `Tariff.Failure` — the causes.
* `Tariff.Failure.message` — the wording of a cause.
-/

set_option autoImplicit false

namespace Tariff

open Tariff.Number

/-- Why a request has no answer. -/
inductive Failure where
  /-- a formula cannot be read or evaluated -/
  | formula (cause : Formula.Error)
  /-- the formula of a template is unfit to be evaluated -/
  | unfitFormula (problems : List Formula.Problem)
  /-- the price of this quantity is beyond the finite doubles -/
  | priceTooLarge (quantity : Int) (unitPrice : Float)
  /-- a required field is left out -/
  | fieldMissing (key label : String)
  /-- a field has no option of this value, which is given in writing -/
  | unknownOption (key value : String)
  /-- the text in a field is no number -/
  | textNotNumeric (key text : String)
  /-- the value of a field is of no use; it is given as a literal -/
  | unsupportedValue (key value : String)
  /-- a quantity is no whole number from one on; it is given as a literal -/
  | badQuantity (quantity : String)
  /-- a quantity is below the least one; the merchant's own wording comes first -/
  | belowMinimum (minimum : Int) (wording : Option String)
  /-- a quantity is above the greatest one; the merchant's own wording comes first -/
  | aboveMaximum (maximum : Int) (wording : Option String)
  /-- there is no template -/
  | noTemplate
  /-- the template is not in use -/
  | inactiveTemplate (id : String)
  /-- a value cannot be read as what it stands for -/
  | fault (cause : Fault)

/-- A wording, unless there is none or it is empty. -/
def wordingOr (wording : Option String) (standard : String) : String :=
  match wording with
  | some w => if w.isEmpty then standard else w
  | none => standard

/-- The wording of an unusable value of a field. -/
def fieldValueText (key reason : String) : String :=
  "Invalid value for field '" ++ key ++ "': " ++ reason

namespace Failure

/-- The wording of a failure. -/
def message : Failure → String
  | formula cause => cause.message
  | unfitFormula problems =>
    "Invalid pricing formula: " ++ "; ".intercalate (problems.map Formula.Problem.message)
  | priceTooLarge quantity unitPrice =>
    "Price for " ++ integerText quantity ++ " pcs is too large to calculate (unit price " ++
      generalText unitPrice ++ ")"
  | fieldMissing key label =>
    "Required field missing: " ++ if label.isEmpty then key else label ++ " (" ++ key ++ ")"
  | unknownOption key v => fieldValueText key ("unknown option '" ++ v ++ "'")
  | textNotNumeric key s => fieldValueText key ("'" ++ s ++ "' is not a number")
  | unsupportedValue key v => fieldValueText key ("unsupported value " ++ v)
  | badQuantity q => "Quantity must be a whole number of at least 1, got " ++ q
  | belowMinimum n wording => wordingOr wording ("Minimum order quantity is " ++ integerText n)
  | aboveMaximum n wording => wordingOr wording ("Maximum order quantity is " ++ integerText n)
  | noTemplate => "Template not found"
  | inactiveTemplate id => "Template is not active: " ++ id
  | fault cause => cause.message

end Failure

/-- The value of a computation that can only meet faults of data. -/
def Failure.ofFault {α : Type} (r : Except Fault α) : Except Failure α :=
  r.mapError .fault

end Tariff
