import Tariff.Formula.Error
import Tariff.Text.Blank

/-!
# The layout of a formula

A formula may run over several lines. Before it is read it is laid out on one, and its parentheses
are counted.

## Main definitions

* `Tariff.Formula.oneLine` — a formula on one line.
* `Tariff.Formula.imbalance?` — how the parentheses of a text fail to balance.
-/

set_option autoImplicit false

namespace Tariff.Formula

open Tariff.Text

/-- Whether a character ends a line of a formula. -/
def isLineBreak (c : Char) : Bool :=
  c == '\r' || c == '\n'

/-- What becomes of a run of blanks: one space if it holds a line break, else itself. -/
def joinedRun (run : List Char) : List Char :=
  if run.any isLineBreak then [' '] else run

/-- The characters after a run of blanks, which is given backwards, with the lines joined. -/
def joinLinesAfter (run : List Char) : List Char → List Char
  | [] => joinedRun run.reverse
  | c :: rest =>
    if isBlank c then joinLinesAfter (c :: run) rest
    else joinedRun run.reverse ++ c :: joinLinesAfter [] rest

/-- Characters with each run of blanks that holds a line break turned into one space. -/
def joinLines (cs : List Char) : List Char :=
  joinLinesAfter [] cs

/-- The characters of a formula on one line, without blanks at the ends. -/
def oneLineChars (formula : String) : List Char :=
  trimBlanks (joinLines formula.toList)

/-- A formula on one line, without blanks at the ends. -/
def oneLine (formula : String) : String :=
  String.ofList (oneLineChars formula)

/-- How the parentheses of a text fail to balance after `depth` that are still open. -/
def imbalanceAfter (depth : Nat) : List Char → Option Imbalance
  | [] => if depth = 0 then none else some .unclosed
  | c :: rest =>
    if c == '(' then imbalanceAfter (depth + 1) rest
    else if c == ')' then
      match depth with
      | 0 => some .unopened
      | d + 1 => imbalanceAfter d rest
    else imbalanceAfter depth rest

/-- How the parentheses of a text fail to balance, if they do. -/
def imbalance? (cs : List Char) : Option Imbalance :=
  imbalanceAfter 0 cs

end Tariff.Formula
