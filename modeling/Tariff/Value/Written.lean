import Tariff.Fault

/-!
# Values in writing

A value is written bare or as a literal. A whole number with too many digits cannot be written, and
neither can a value whose lists and objects are nested too deeply.

## Main definitions

* `Tariff.Value.literal` — a value as a literal.
* `Tariff.Value.shown` — a value as a text.
-/

set_option autoImplicit false

namespace Tariff.Value

open Tariff.Number Tariff.Text

mutual

/-- A value as a literal: a text stands in quotes. There is room for so many nested calls, of which
each list and each object takes one. -/
def literalWithin (room : Nat) : Value → Except Fault String
  | .null => .ok "None"
  | .bool b => .ok (if b then "True" else "False")
  | .int n => if isWritable n then .ok (integerText n) else .error .integerUnwritable
  | .float x => .ok (shortestText x)
  | .text s => .ok (quoted s)
  | .list items => do
    let room ← nest 1 room
    .ok ("[" ++ ", ".intercalate (← literalsWithin room items) ++ "]")
  | .object members => do
    let room ← nest 1 room
    .ok ("\x7b" ++ ", ".intercalate (← memberLiteralsWithin room members) ++ "\x7d")

/-- The literals of the items of a list. -/
def literalsWithin (room : Nat) : List Value → Except Fault (List String)
  | [] => .ok []
  | v :: rest => do
    let first ← v.literalWithin room
    .ok (first :: (← literalsWithin room rest))

/-- The literals of the members of an object. -/
def memberLiteralsWithin (room : Nat) : List (String × Value) → Except Fault (List String)
  | [] => .ok []
  | (name, v) :: rest => do
    let first ← v.literalWithin room
    .ok ((quoted name ++ ": " ++ first) :: (← memberLiteralsWithin room rest))

end

/-- A value as a literal. -/
def literal (v : Value) : Except Fault String :=
  v.literalWithin standardCalls

/-- A value as a text: a text as it is, any other value as a literal. -/
def shown (v : Value) : Except Fault String :=
  match v with
  | .text s => .ok s
  | _ => v.literal

/-- What is found as a text, or else a standard text. -/
def shownOr (found : Option Value) (standard : String) : Except Fault String :=
  match found with
  | some v => v.shown
  | none => .ok standard

end Tariff.Value
