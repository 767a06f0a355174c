import Tariff.CommandLine.Arguments
import Tariff.Formula.Check
import Tariff.Formula.Evaluation

/-!
# Trials of a formula

A trial checks a formula, evaluates it if it is fit, and shows the outcome.

## Main definitions

* `Tariff.CommandLine.Outcome` — what a command shows, and how it ends.
* `Tariff.CommandLine.trial` — the trial that some arguments ask for.
-/

set_option autoImplicit false

namespace Tariff.CommandLine

open Tariff.Number

/-- What a command shows, and how it ends. -/
structure Outcome where
  lines : List String
  /-- the code with which the command ends, unless it is broken off -/
  ending : Except Failure Nat

/-- The outcome of arguments that ask for nothing sensible. -/
def misused : Outcome := ⟨[], .ok 2⟩

/-- The lines about the check of a formula. -/
def checkLines (formula : String) (report : Formula.Report) : List String :=
  ["Formula: " ++ formula, "Valid:   " ++ if report.isValid then "True" else "False"] ++
    report.problems.map (fun p => "  ERROR:   " ++ p.message) ++
    report.warnings.map fun w => "  WARNING: " ++ w.message

/-- The lines about the value of a formula. -/
def valueLines (result : Float) (used : List String) : List String :=
  ["", "Result: " ++ fixedText 2 result,
    "Variables used: " ++ if used.isEmpty then "(none)" else ", ".intercalate used]

/-- The lines about a formula without value. -/
def rejectionLines (message : String) : List String :=
  ["", "Evaluation failed: " ++ message]

/-- The outcome of the trial of a formula with values for its names. The base price is no field. -/
def trialOf (limits : Formula.Limits) (room : Nat) (formula : String)
    (values : List (String × Float)) : Outcome :=
  let keys := (values.map (·.1)).filter (· != "base_price")
  let report := Formula.check limits (some formula) keys
  let head := checkLines formula report
  if !report.isValid then ⟨head, .ok 1⟩
  else match Formula.trial limits room (some formula) (values.map fun v => (v.1, .float v.2)) with
    | .ok (.value result used) => ⟨head ++ valueLines result used, .ok 0⟩
    | .ok (.rejected cause) => ⟨head ++ rejectionLines cause.message, .ok 1⟩
    | .error failure => ⟨head, .error failure⟩

/-- The trial that some arguments ask for. -/
def trial (limits : Formula.Limits) (room : Nat) (args : List String) : Outcome :=
  match positional? args with
  | none => misused
  | some (formula, rest) =>
    match assignments? rest with
    | none => misused
    | some values => trialOf limits room formula values

end Tariff.CommandLine
