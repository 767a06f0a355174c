/-!
# Values

What the storefront submits and what a snapshot holds: values of seven kinds, nested in lists and
objects.

## Main definitions

* `Tariff.Value` — a value.
* `Tariff.Kind` — its kind, with the word that names it in messages.
* `Tariff.Value.isVoid` — whether a value counts as left out.
* `Tariff.assign`, `Tariff.lookup?` — members of an object by name.
-/

set_option autoImplicit false

namespace Tariff

/-- A value. The members of an object keep the order in which their names came first. -/
inductive Value where
  /-- no value -/
  | null
  /-- a truth value -/
  | bool (b : Bool)
  /-- a whole number of any size -/
  | int (n : Int)
  /-- a double -/
  | float (x : Float)
  /-- a text -/
  | text (s : String)
  /-- a list of values -/
  | list (items : List Value)
  /-- named values -/
  | object (members : List (String × Value))
  deriving Inhabited

/-- The kinds of values. -/
inductive Kind where
  | null | bool | int | float | text | list | object
  deriving DecidableEq

/-- The word for a kind in messages. -/
def Kind.word : Kind → String
  | .null => "NoneType"
  | .bool => "bool"
  | .int => "int"
  | .float => "float"
  | .text => "str"
  | .list => "list"
  | .object => "dict"

/-- The value under a name. -/
def lookup? {α : Type} (name : String) (members : List (String × α)) : Option α :=
  (members.find? (·.1 == name)).map (·.2)

/-- Members with one more value: in the place of the one of that name, or else at the end. -/
def assign {α : Type} (name : String) (v : α) : List (String × α) → List (String × α)
  | [] => [(name, v)]
  | m :: rest => if m.1 == name then (name, v) :: rest else m :: assign name v rest

namespace Value

/-- The kind of a value. -/
def kind : Value → Kind
  | .null => .null
  | .bool _ => .bool
  | .int _ => .int
  | .float _ => .float
  | .text _ => .text
  | .list _ => .list
  | .object _ => .object

/-- Whether a value counts as left out: it is null, false, zero or empty. -/
def isVoid : Value → Bool
  | .null => true
  | .bool b => !b
  | .int n => n == 0
  | .float x => x == 0.0
  | .text s => s == ""
  | .list items => items.isEmpty
  | .object members => members.isEmpty

end Value

end Tariff
