import Tariff.Number.Written
import Tariff.Text.Quoted
import Tariff.Value

/-!
# Writing documents

A value as JSON text with a line for each item of a list and each member of an object, indented by
how deep it stands. The text is ASCII: any other character is written by its UTF-16 code units.

## Main definitions

* `Tariff.Document.quotedText` — a text in a document.
* `Tariff.Document.indented` — a value in a document.
-/

set_option autoImplicit false

namespace Tariff.Document

open Tariff.Number

/-- A code unit by its number. -/
def unitEscape (u : Nat) : List Char :=
  '\\' :: 'u' :: Text.hexadecimal 4 u

/-- A character in a text. One beyond the first 65536 is written as a pair of surrogates. -/
def escapedChar (c : Char) : List Char :=
  let n := c.toNat
  if c == '"' || c == '\\' then ['\\', c]
  else if c == '\n' then ['\\', 'n']
  else if c == '\r' then ['\\', 'r']
  else if c == '\t' then ['\\', 't']
  else if n = 0x08 then ['\\', 'b']
  else if n = 0x0c then ['\\', 'f']
  else if 0x20 ≤ n ∧ n ≤ 0x7e then [c]
  else if n < 0x10000 then unitEscape n
  else
    unitEscape (0xd800 + (n - 0x10000) / 0x400) ++ unitEscape (0xdc00 + (n - 0x10000) % 0x400)

/-- A text in a document. -/
def quotedText (s : String) : String :=
  String.ofList ('"' :: (s.toList.flatMap escapedChar ++ ['"']))

/-- A double in a document. -/
def doubleText (x : Float) : String :=
  if x.isNaN then "NaN"
  else if x.isInf then if isNegative x then "-Infinity" else "Infinity"
  else shortestText x

/-- The start of a line that stands `depth` deep. -/
def lineStart (depth : Nat) : String :=
  "\n" ++ String.ofList (List.replicate (2 * depth) ' ')

/-- The lines of a container that stands `depth` deep, between its two marks. -/
def enclosed (first last : String) (depth : Nat) (lines : List String) : String :=
  if lines.isEmpty then first ++ last
  else
    first ++ ",".intercalate (lines.map (lineStart (depth + 1) ++ ·)) ++ lineStart depth ++ last

mutual

/-- A value that stands `depth` deep in a document. -/
def indented (depth : Nat) : Value → String
  | .null => "null"
  | .bool b => if b then "true" else "false"
  | .int n => integerText n
  | .float x => doubleText x
  | .text s => quotedText s
  | .list items => enclosed "[" "]" depth (indentedItems (depth + 1) items)
  | .object members => enclosed "\x7b" "\x7d" depth (indentedMembers (depth + 1) members)

/-- The items of a list that stand `depth` deep. -/
def indentedItems (depth : Nat) : List Value → List String
  | [] => []
  | v :: rest => indented depth v :: indentedItems depth rest

/-- The members of an object that stand `depth` deep. -/
def indentedMembers (depth : Nat) : List (String × Value) → List String
  | [] => []
  | (name, v) :: rest => (quotedText name ++ ": " ++ indented depth v) :: indentedMembers depth rest

end

end Tariff.Document
