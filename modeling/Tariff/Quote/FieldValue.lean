import Tariff.Failure
import Tariff.Template
import Tariff.Value.Scalar

/-!
# Values of fields

What a customer submits for a field is reduced to one number.

## Main definitions

* `Tariff.FieldValue` — a submitted value with the number it stands for.
* `Tariff.Field.interpret` — the value that is submitted for a field.
* `Tariff.Template.bind` — the numbers of all fields that the formula may use.
-/

set_option autoImplicit false

namespace Tariff

open Tariff.Number Tariff.Text

/-- What is submitted for a field. -/
inductive FieldValue where
  /-- a number -/
  | number (x : Float)
  /-- a truth value -/
  | bool (b : Bool)
  /-- chosen options, and what the choices add up to -/
  | options (selected : List String) (delta : Float)

/-- The number that a submitted value stands for. -/
def FieldValue.amount : FieldValue → Float
  | number x => x
  | bool b => if b then 1.0 else 0.0
  | options _ delta => delta

namespace Field

/-- What choices from the options of a field add up to, on top of `sum`. -/
def addDeltas (f : Field) (sum : Float) : List Value → Except Failure Float
  | [] => .ok sum
  | v :: rest => do
    let s ← Failure.ofFault v.shown
    match f.option? s with
    | some o => f.addDeltas (sum + o.delta) rest
    | none => .error (.unknownOption f.key s)

/-- The choices from the options of a field. A text is one choice. -/
def choices (v : Value) : Except Fault (List Value) :=
  match v with
  | .text _ => .ok [v]
  | _ => v.items

/-- The value that is submitted for a field. A number is taken as it is for a field of any type, and
a box that is ticked stands for the only option of its field. -/
def interpret (f : Field) (v : Value) : Except Failure FieldValue :=
  match v with
  | .bool b =>
    match f.options with
    | [o] => .ok (if f.type == .checkbox && b then .options [o.value] o.delta else .bool b)
    | _ => .ok (.bool b)
  | .int _ | .float _ => Failure.ofFault (v.toFloat.map .number)
  | _ =>
    if f.type.hasOptions then do
      let selected ← Failure.ofFault (choices v)
      let delta ← f.addDeltas 0.0 selected
      let texts ← Failure.ofFault (selected.mapM Value.shown)
      .ok (.options texts delta)
    else match v with
      | .text s =>
        match readFloat? (trim s) with
        | some x => .ok (.number x)
        | none => .error (.textNotNumeric f.key s)
      | _ => do .error (.unsupportedValue f.key (← Failure.ofFault v.literal))

/-- What counts as submitted for a field: where nothing is, the quantity for a field that selects
it, and else zero. -/
def submittedOr (f : Field) (v quantity : Value) : Value :=
  if v.isBlank then if f.type == .quantitySelector then quantity else .int 0
  else v

end Field

/-- The value that is submitted under a key, or null. -/
def submitted (values : List (String × Value)) (key : String) : Value :=
  (lookup? key values).getD .null

/-- The numbers of some fields, on top of those bound before. -/
def bindFields (values : List (String × Value)) (quantity : Value)
    (bound : List (String × Float)) : List Field → Except Failure (List (String × Float))
  | [] => .ok bound
  | f :: rest => do
    let v ← f.interpret (f.submittedOr (submitted values f.key) quantity)
    bindFields values quantity (assign f.key v.amount bound) rest

/-- The numbers of the fields that the formula of a template may use, by their keys. -/
def Template.bind (t : Template) (values : List (String × Value)) (quantity : Value) :
    Except Failure (List (String × Float)) :=
  bindFields values quantity [] t.variableFields

end Tariff
