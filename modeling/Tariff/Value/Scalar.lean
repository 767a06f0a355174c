import Tariff.Moment.Reading
import Tariff.Number.Numeral
import Tariff.Text.Case
import Tariff.Value.Written

/-!
# Reading parts and scalars of values

A value is looked into by name and by item, and is read as a truth value, a number, a text or a
moment. Readers whose name ends in a question mark take null and blank texts for nothing.

## Main definitions

* `Tariff.Value.get`, `Tariff.Value.require` — the value under a name.
* `Tariff.Value.items` — the items of a value.
* `Tariff.Value.toInt`, `Tariff.Value.toFloat` — a value as a number.
* `Tariff.Value.toBool`, `Tariff.Value.toInt?`, `Tariff.Value.toFloat?`, `Tariff.Value.toText?`,
  `Tariff.Value.toMoment?` — a value as an optional scalar.
-/

set_option autoImplicit false

namespace Tariff.Value

open Tariff.Number Tariff.Text

/-! ### Parts -/

/-- The value under a name, if there is one. -/
def find (v : Value) (name : String) : Except Fault (Option Value) :=
  match v with
  | object members => .ok (lookup? name members)
  | _ => .error (.noMembers v.kind)

/-- The value under a name, or null. -/
def get (v : Value) (name : String) : Except Fault Value :=
  (v.find name).map fun found => found.getD null

/-- The value under a name that has to be there. -/
def require (v : Value) (name : String) : Except Fault Value :=
  match v with
  | object members =>
    match lookup? name members with
    | some found => .ok found
    | none => .error (.missing name)
  | list _ => .error .listIndexedByName
  | text _ => .error .textIndexedByName
  | _ => .error (.notIndexed v.kind)

/-- The items of a value: those of a list, the characters of a text, the names of an object. -/
def items (v : Value) : Except Fault (List Value) :=
  match v with
  | list xs => .ok xs
  | text s => .ok (s.toList.map fun c => text (String.singleton c))
  | object members => .ok (members.map fun m => text m.1)
  | _ => .error (.noItems v.kind)

/-- The items of a value; one that counts as left out has none. -/
def itemsIfAny (v : Value) : Except Fault (List Value) :=
  if v.isVoid then .ok [] else v.items

/-! ### Scalars -/

/-- A value as a whole number. A double loses what is after its point. -/
def toInt (v : Value) : Except Fault Int :=
  match v with
  | bool b => .ok (if b then 1 else 0)
  | int n => .ok n
  | float x =>
    match truncation? x with
    | some n => .ok n
    | none => .error (if x.isNaN then .nanAsInteger else .infinityAsInteger)
  | text s =>
    match readInteger s with
    | .value n => .ok n
    | .tooLong digits => .error (.integerTooLong digits)
    | .invalid => .error (.badInteger s)
  | _ => .error (.notInteger v.kind)

/-- A value as a double. -/
def toFloat (v : Value) : Except Fault Float :=
  match v with
  | bool b => .ok (if b then 1.0 else 0.0)
  | int n =>
    match ofInt? n with
    | some x => .ok x
    | none => .error .tooLarge
  | float x => .ok x
  | text s =>
    match readFloat? s with
    | some x => .ok x
    | none => .error (.badNumber s)
  | _ => .error (.notNumber v.kind)

/-- Whether a value is null or a blank text. -/
def isBlank (v : Value) : Bool :=
  match v with
  | null => true
  | text s => isBlankText s
  | _ => false

/-- A value as an optional whole number. -/
def toInt? (v : Value) : Except Fault (Option Int) :=
  if v.isBlank then .ok none else v.toInt.map some

/-- A value as an optional double. -/
def toFloat? (v : Value) : Except Fault (Option Float) :=
  if v.isBlank then .ok none else v.toFloat.map some

/-- A value as an optional text, without blanks at its ends. -/
def toText? (v : Value) : Except Fault (Option String) :=
  if v.isBlank then .ok none else v.shown.map fun s => some (trim s)

/-- The words for a truth value that is true. -/
def trueWords : List String := ["true", "1", "yes", "on"]

/-- A value as a truth value: null is the given one, and all but a few words are false. -/
def toBool (v : Value) (standard : Bool) : Except Fault Bool :=
  match v with
  | null => .ok standard
  | bool b => .ok b
  | _ => v.shown.map fun s => trueWords.contains (lower (trim s))

/-- A text with every capital `Z` written as a distance of zero from universal time. -/
def withNumericZone (s : String) : String :=
  String.ofList (s.toList.flatMap fun c => if c == 'Z' then ['+', '0', '0', ':', '0', '0'] else [c])

/-- A value as an optional moment. -/
def toMoment? (v : Value) : Except Fault (Option Moment) := do
  match ← v.toText? with
  | none => .ok none
  | some s => (Moment.read (withNumericZone s)).map some

end Tariff.Value
