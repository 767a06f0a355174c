import Tariff.Formula.Parser
import Tariff.Value.Scalar

/-!
# Settings

What a shop may set: where its files are, how it shows money and what it lets formulas be. A
setting is taken from the environment, where its name has a fixed start, or has a standard value.

## Main definitions

* `Tariff.Path.tidy`, `Tariff.Path.below` — paths of files without parts that say nothing.
* `Tariff.Settings` — the settings; `Settings.ofEnvironment` takes them from an environment.
-/

set_option autoImplicit false

namespace Tariff

open Tariff.Text

namespace Path

/-- The parts of a path: no part is empty or a lone point. -/
def parts (path : String) : List String :=
  (path.splitOn "/").filter fun part => part != "" && part != "."

/-- What a path starts with: nothing, a slash, or exactly two slashes, which differ from one. -/
def root (cs : List Char) : String :=
  match cs with
  | '/' :: '/' :: '/' :: _ => "/"
  | '/' :: '/' :: _ => "//"
  | '/' :: _ => "/"
  | _ => ""

/-- The tidy form of a path below a folder. -/
def below (folder path : String) : String :=
  let text := root folder.toList ++ "/".intercalate (parts folder ++ parts path)
  if text.isEmpty then "." else text

/-- The tidy form of a path. -/
def tidy (path : String) : String :=
  below path ""

end Path

/-- What a shop may set. -/
structure Settings where
  /-- the path of the snapshot -/
  snapshotPath : String
  /-- the path of the folder for reports -/
  reportsPath : String
  currency : String
  /-- what follows an amount of the currency -/
  currencySuffix : String
  /-- how many characters a formula may have -/
  maxFormulaLength : Option Int
  /-- how deep a formula may be nested -/
  maxFormulaDepth : Int
  logLevel : String
  /-- how many calls may be nested in the evaluation of a formula; this is up to the host -/
  callLimit : Nat

namespace Settings

/-- The settings of a shop that sets nothing, with its files below a folder. -/
def standard (folder : String) : Settings where
  snapshotPath := Path.below folder "data/templates.json"
  reportsPath := Path.below folder "data/reports"
  currency := "HUF"
  currencySuffix := "Ft"
  maxFormulaLength := some 2000
  maxFormulaDepth := 64
  logLevel := "INFO"
  callLimit := standardCalls

/-- The names of the settings that an environment may give. -/
def names : List String :=
  ["TEMPLATES_SNAPSHOT", "REPORTS_DIR", "CURRENCY", "CURRENCY_SUFFIX", "MAX_FORMULA_LENGTH",
    "MAX_FORMULA_DEPTH", "LOG_LEVEL"]

/-- What formulas have to keep to. -/
def limits (s : Settings) : Formula.Limits :=
  ⟨s.maxFormulaDepth, s.maxFormulaLength⟩

/-- A path from the environment, where an empty one counts as none. -/
def pathOr (path : Option String) (standard : String) : String :=
  match path with
  | some p => if p.isEmpty then standard else Path.tidy p
  | none => standard

/-- A whole number from the environment. -/
def integerOr (numeral : Option String) (standard : Int) : Except Fault Int :=
  match numeral with
  | some n => (Value.text n).toInt
  | none => .ok standard

/-- The settings of an environment, which gives the value of a setting by its name. -/
def ofEnvironment (folder : String) (environment : String → Option String) :
    Except Fault Settings := do
  let s := standard folder
  let length ← integerOr (environment "MAX_FORMULA_LENGTH") 2000
  let depth ← integerOr (environment "MAX_FORMULA_DEPTH") s.maxFormulaDepth
  .ok {
    snapshotPath := pathOr (environment "TEMPLATES_SNAPSHOT") s.snapshotPath
    reportsPath := pathOr (environment "REPORTS_DIR") s.reportsPath
    currency := (environment "CURRENCY").getD s.currency
    currencySuffix := (environment "CURRENCY_SUFFIX").getD s.currencySuffix
    maxFormulaLength := some length
    maxFormulaDepth := depth
    callLimit := s.callLimit
    logLevel := upper ((environment "LOG_LEVEL").getD s.logLevel) }

end Settings

end Tariff
