import Tariff.Number.Numeral
import Tariff.Number.Written
import Tariff.Text.Quoted
import Tariff.Value

/-!
# Faults of data

What can be wrong with a value that is read as something more specific. A fault belongs to a
category, and all but two of the categories are confined to the entry in which they occur. One of
these two is the fault of a computation whose calls are nested deeper than the host permits.

## Main definitions

* `Tariff.Fault` — the causes.
* `Tariff.Fault.category` — the category of a cause.
* `Tariff.Fault.message` — the wording of a cause.
* `Tariff.nest` — the room that nested calls leave.
-/

set_option autoImplicit false

namespace Tariff

open Tariff.Number Tariff.Text

/-- The categories of faults. -/
inductive Fault.Category where
  /-- a value of the wrong kind for a look-up or a change of case -/
  | attribute
  /-- a value of the wrong kind for any other use -/
  | type
  /-- a name that an object lacks -/
  | key
  /-- a value of the right kind that denotes nothing -/
  | value
  /-- a number beyond the range of doubles, or an infinity as a whole number -/
  | overflow
  /-- bytes that are no text -/
  | encoding
  /-- calls that are nested too deeply -/
  | recursion
  deriving DecidableEq

/-- The parts of a date that can be out of range. -/
inductive DatePart where
  /-- a year, which is given -/
  | year (y : Nat)
  | month
  | day
  | hour
  | minute
  | second
  | microsecond
  /-- a distance from universal time, in microseconds -/
  | offset (microseconds : Int)

/-- A span of time in days, seconds and microseconds, of which only the days may be negative. -/
def spanText (microseconds : Int) : String :=
  let days := microseconds.fdiv 86400000000
  let seconds := (microseconds.fmod 86400000000).fdiv 1000000
  let rest := microseconds.fmod 1000000
  let parts := [("days", days), ("seconds", seconds), ("microseconds", rest)].filter (·.2 != 0)
  "datetime.timedelta(" ++
    ", ".intercalate (parts.map fun p => p.1 ++ "=" ++ integerText p.2) ++ ")"

/-- The wording of a part of a date that is out of range. -/
def DatePart.message : DatePart → String
  | year y => "year " ++ integerText y ++ " is out of range"
  | month => "month must be in 1..12"
  | day => "day is out of range for month"
  | hour => "hour must be in 0..23"
  | minute => "minute must be in 0..59"
  | second => "second must be in 0..59"
  | microsecond => "microsecond must be in 0..999999"
  | offset microseconds =>
    "offset must be a timedelta strictly between -timedelta(hours=24) and timedelta(hours=24), " ++
      "not " ++ spanText microseconds ++ "."

/-- What is wrong with a value. -/
inductive Fault where
  /-- names are looked up in a value that is no object -/
  | noMembers (kind : Kind)
  /-- small letters are asked of a value that is no text -/
  | noLetters (kind : Kind)
  /-- the items are asked of a value that has none -/
  | noItems (kind : Kind)
  /-- a required name is looked up in a value that holds nothing -/
  | notIndexed (kind : Kind)
  /-- a required name is looked up in a text -/
  | textIndexedByName
  /-- a required name is looked up in a list -/
  | listIndexedByName
  /-- a value of this kind is no whole number -/
  | notInteger (kind : Kind)
  /-- a value of this kind is no number -/
  | notNumber (kind : Kind)
  /-- a value of this kind cannot be a member of a set -/
  | notHashable (kind : Kind)
  /-- an object lacks a required name -/
  | missing (name : String)
  /-- a text is no whole number -/
  | badInteger (s : String)
  /-- a numeral has more digits than are read -/
  | integerTooLong (digits : Nat)
  /-- a whole number has more digits than are written -/
  | integerUnwritable
  /-- a text is no number -/
  | badNumber (s : String)
  /-- not-a-number is read as a whole number -/
  | nanAsInteger
  /-- a text, in capitals, names no scope -/
  | unknownScope (s : String)
  /-- a text, in capitals, names no type of field -/
  | unknownFieldType (s : String)
  /-- the field at this place, counted from one, has no key -/
  | fieldWithoutKey (place : Nat)
  /-- a template has no id -/
  | templateWithoutId
  /-- a template has no formula -/
  | templateWithoutFormula
  /-- a text is no date -/
  | badMoment (s : String)
  /-- a part of a date is out of range -/
  | outOfRange (part : DatePart)
  /-- an infinity is read as a whole number -/
  | infinityAsInteger
  /-- a number lies beyond the finite doubles -/
  | tooLarge
  /-- bytes are not in the encoding of texts -/
  | notText
  /-- calls are nested deeper than the host permits -/
  | callsExhausted

namespace Fault

/-- The category of a fault. -/
def category : Fault → Category
  | noMembers _ | noLetters _ => .attribute
  | noItems _ | notIndexed _ | textIndexedByName | listIndexedByName | notInteger _ | notNumber _
  | notHashable _ => .type
  | missing _ => .key
  | badInteger _ | integerTooLong _ | integerUnwritable | badNumber _ | nanAsInteger
  | unknownScope _ | unknownFieldType _ | fieldWithoutKey _ | templateWithoutId
  | templateWithoutFormula | badMoment _ | outOfRange _ => .value
  | infinityAsInteger | tooLarge => .overflow
  | notText => .encoding
  | callsExhausted => .recursion

/-- Whether a fault is confined to the entry in which it occurs. -/
def isConfined (f : Fault) : Bool :=
  match f.category with
  | .overflow | .recursion => false
  | _ => true

/-- The wording of a fault. A quoted text that is no whole number is cut at 200 characters. -/
def message : Fault → String
  | noMembers k => "'" ++ k.word ++ "' object has no attribute 'get'"
  | noLetters k => "'" ++ k.word ++ "' object has no attribute 'lower'"
  | noItems k => "'" ++ k.word ++ "' object is not iterable"
  | notIndexed k => "'" ++ k.word ++ "' object is not subscriptable"
  | textIndexedByName => "string indices must be integers, not 'str'"
  | listIndexedByName => "list indices must be integers or slices, not str"
  | notInteger k =>
    "int() argument must be a string, a bytes-like object or a real number, not '" ++ k.word ++ "'"
  | notNumber k => "float() argument must be a string or a real number, not '" ++ k.word ++ "'"
  | notHashable k => "unhashable type: '" ++ k.word ++ "'"
  | missing name => quoted name
  | badInteger s =>
    "invalid literal for int() with base 10: " ++ String.ofList ((quoted s).toList.take 200)
  | integerTooLong n =>
    "Exceeds the limit (" ++ integerText digitLimit ++
      " digits) for integer string conversion: value has " ++ integerText n ++
      " digits; use sys.set_int_max_str_digits() to increase the limit"
  | integerUnwritable =>
    "Exceeds the limit (" ++ integerText digitLimit ++
      " digits) for integer string conversion; use sys.set_int_max_str_digits() to increase the " ++
      "limit"
  | badNumber s => "could not convert string to float: " ++ quoted s
  | nanAsInteger => "cannot convert float NaN to integer"
  | unknownScope s => quoted s ++ " is not a valid ScopeType"
  | unknownFieldType s => quoted s ++ " is not a valid FieldType"
  | fieldWithoutKey n => "field " ++ integerText n ++ ": key is required"
  | templateWithoutId => "id is required"
  | templateWithoutFormula => "pricingFormula is required"
  | badMoment s => "Invalid isoformat string: " ++ quoted s
  | outOfRange part => part.message
  | infinityAsInteger => "cannot convert float infinity to integer"
  | tooLarge => "int too large to convert to float"
  | notText => "invalid start byte"
  | callsExhausted => "maximum recursion depth exceeded"

end Fault

/-- How many calls may be nested where the library is at work, if the host has its standard limit: a
thousand, less those that lead to the library. -/
def standardCalls : Nat := 990

/-- The room for nested calls that is left inside of some nested calls, if there was room for
them. -/
def nest (calls room : Nat) : Except Fault Nat :=
  if calls ≤ room then .ok (room - calls) else .error .callsExhausted

end Tariff
