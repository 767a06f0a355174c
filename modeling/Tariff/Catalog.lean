import Tariff.Collision
import Tariff.Formula.Check
import Tariff.Settings

/-!
# Catalogs

A catalog holds the templates of a shop. It looks them up, checks a template before it is saved,
and checks and counts all that it holds.

## Main definitions

* `Tariff.Template.Problem`, `Tariff.Template.Warning` — the lines of a check.
* `Tariff.Template.problems` — what makes a template unfit to be saved.
* `Tariff.Catalog` — the templates of a shop.
* `Tariff.Catalog.check`, `Tariff.Catalog.checkAll` — the check of one template, and of all.
* `Tariff.Catalog.statistics` — how many templates there are of each sort.
-/

set_option autoImplicit false

namespace Tariff

open Tariff.Number Tariff.Text

/-! ### Checking a template -/

/-- What makes a template unfit to be saved. -/
inductive Template.Problem where
  | nameMissing
  /-- the key of a field is no name in small letters -/
  | badKey (key : String)
  /-- two fields have the same key -/
  | repeatedKey (key : String)
  /-- the formula is unfit -/
  | formula (cause : Formula.Problem)
  /-- a template for all products names some -/
  | valuesForAll
  /-- a template for some products names none -/
  | valuesMissing (scope : Scope)
  | multiplierMissing
  | multiplierTooSmall
  | minimumTooSmall
  | minimumAboveMaximum
  /-- the tier at this place, counted from one, starts below zero -/
  | tierBelowZero (place : Nat)
  /-- the tier at this place, counted from one, ends before it starts -/
  | tierInverted (place : Nat)
  /-- the discount of the tier at this place, counted from one, is no percentage -/
  | tierDiscount (place : Nat)

/-- The start of a line about a tier. -/
def tierText (place : Nat) (text : String) : String :=
  "Discount tier " ++ integerText place ++ ": " ++ text

/-- The wording of a problem. -/
def Template.Problem.message : Template.Problem → String
  | nameMissing => "Name is required"
  | badKey key =>
    "Invalid field key '" ++ key ++ "': use lowercase letters, digits and underscores, " ++
      "not starting with a digit"
  | repeatedKey key => "Duplicate field key '" ++ key ++ "'"
  | formula cause => cause.message
  | valuesForAll => "GLOBAL templates cannot have scope values"
  | valuesMissing scope => scope.name ++ " templates need at least one scope value"
  | multiplierMissing => "Express multiplier is required when the express option is enabled"
  | multiplierTooSmall => "Express multiplier must be greater than 1"
  | minimumTooSmall => "Minimum quantity must be at least 1"
  | minimumAboveMaximum => "Minimum quantity cannot exceed maximum quantity"
  | tierBelowZero n => tierText n "minimum quantity cannot be negative"
  | tierInverted n => tierText n "maximum quantity is below the minimum"
  | tierDiscount n => tierText n "discount must be between 0 and 100"

/-- What is worth a second look in a template. -/
inductive Template.Warning where
  /-- the formula is worth a second look -/
  | formula (cause : Formula.Warning)
  /-- two tiers that start at these quantities overlap -/
  | overlap (lower upper : Int)
  /-- another template has some of the same keys -/
  | conflict (name id : String) (keys : List String)

/-- The wording of a warning. -/
def Template.Warning.message : Template.Warning → String
  | formula cause => cause.message
  | overlap lower upper =>
    "Discount tiers starting at " ++ integerText lower ++ " and " ++ integerText upper ++
      " overlap; the tier starting at " ++ integerText upper ++ " wins inside the overlap"
  | conflict name id keys =>
    "Scope overlaps with template '" ++ name ++ "' (" ++ id ++ ") on " ++ ", ".intercalate keys

/-- Whether a character may start the key of a field. -/
def isKeyStart (c : Char) : Bool :=
  ('a' ≤ c && c ≤ 'z') || c == '_'

/-- Whether a text is a key of a field: small letters, digits and underscores that do not start with
a digit. One line feed may follow them. -/
def isFieldKey (key : String) : Bool :=
  match key.toList with
  | [] => false
  | c :: rest =>
    let tail := rest.dropWhile fun d => isKeyStart d || d.isDigit
    isKeyStart c && (tail.isEmpty || tail == ['\n'])

/-- The problems of the keys of fields, after fields with the given keys. -/
def keyProblems (seen : List String) : List Field → List Template.Problem
  | [] => []
  | f :: rest =>
    (if isFieldKey f.key then [] else [.badKey f.key]) ++
      (if seen.contains f.key then [.repeatedKey f.key] else []) ++
      keyProblems (f.key :: seen) rest

/-- The problems of the tiers from a place on. -/
def tierProblems (place : Nat) : List Tier → List Template.Problem
  | [] => []
  | t :: rest =>
    (if t.minimum < 0 then [.tierBelowZero place] else []) ++
      (if t.maximum.any (· < t.minimum) then [.tierInverted place] else []) ++
      (if 0.0 ≤ t.discount ∧ t.discount ≤ 100.0 then [] else [.tierDiscount place]) ++
      tierProblems (place + 1) rest

/-- A problem, if there is one. -/
def problemIf (condition : Bool) (p : Template.Problem) : List Template.Problem :=
  if condition then [p] else []

/-- The problems of the express option. -/
def Template.expressProblems (t : Template) : List Template.Problem :=
  if !t.hasExpressOption then []
  else match t.expressMultiplier with
    | none => [.multiplierMissing]
    | some m => problemIf (m ≤ 1.0) .multiplierTooSmall

/-- The problems of the limits of the quantity. -/
def Template.quantityProblems (t : Template) : List Template.Problem :=
  problemIf (t.minQuantity.any (· < 1)) .minimumTooSmall ++
    problemIf (t.minQuantity.any fun least => t.maxQuantity.any (· < least)) .minimumAboveMaximum

/-- The problems of the scope. -/
def Template.scopeProblems (t : Template) : List Template.Problem :=
  problemIf (t.scope == .global && !t.scopeValues.isEmpty) .valuesForAll ++
    problemIf (t.scope != .global && t.scopeValues.isEmpty) (.valuesMissing t.scope)

/-- The check of the formula of a template against the fields that it may use. -/
def Template.formulaReport (limits : Formula.Limits) (t : Template) : Formula.Report :=
  Formula.check limits t.formula t.variableKeys

/-- What makes a template unfit to be saved. -/
def Template.problems (limits : Formula.Limits) (t : Template) : List Template.Problem :=
  problemIf (isBlankText t.name) .nameMissing ++ keyProblems [] t.fields ++
    (t.formulaReport limits).problems.map .formula ++ t.scopeProblems ++ t.expressProblems ++
    t.quantityProblems ++ tierProblems 1 t.discountTiers

/-- What a check of a template finds. -/
structure Template.Report where
  /-- what makes the template unfit to be saved -/
  problems : List Template.Problem
  /-- what is worth a second look -/
  warnings : List Template.Warning

/-- Whether a template is fit to be saved. -/
def Template.Report.isValid (r : Template.Report) : Bool :=
  r.problems.isEmpty

/-! ### Catalogs -/

/-- The templates of a shop. -/
structure Catalog where
  templates : List Template

namespace Catalog

/-- The templates of a catalog, with or without those that are not in use. -/
def list (c : Catalog) (withInactive : Bool) : List Template :=
  c.templates.filter fun t => withInactive || t.isActive

/-- The first template of an id. -/
def template? (c : Catalog) (id : String) : Option Template :=
  c.templates.find? (·.id == id)

/-- The keys that two templates share, as a warning if there are any. -/
def conflictWith (t other : Template) : Option Template.Warning :=
  let shared := other.scopeKeys.filter t.scopeKeys.contains
  if shared.isEmpty then none else some (.conflict other.name other.id shared)

/-- The warnings about the active templates of a catalog, of another id than a template, that have
some of the same keys. -/
def conflicts (c : Catalog) (t : Template) : List Template.Warning :=
  (c.templates.filter fun other => other.id != t.id && other.isActive).filterMap (conflictWith t)

/-- Checks a template before it is saved. Conflicts are of interest only if it can be saved and will
be in use. -/
def check (limits : Formula.Limits) (c : Catalog) (t : Template) : Template.Report :=
  let problems := t.problems limits
  let warnings :=
    (t.formulaReport limits).warnings.map .formula ++
      (Tier.overlaps t.discountTiers).map fun p => .overlap p.1.minimum p.2.minimum
  ⟨problems, warnings ++ if problems.isEmpty && t.isActive then c.conflicts t else []⟩

/-- Checks all templates. An id that comes up again keeps its first place and its last report. -/
def checkAll (limits : Formula.Limits) (c : Catalog) : List (String × Template.Report) :=
  c.templates.foldl (fun report t => assign t.id (c.check limits t) report) []

/-- How many templates there are of each sort. -/
structure Statistics where
  total : Nat
  active : Nat
  withExpress : Nat
  withDiscounts : Nat
  /-- how many there are of each scope that comes up -/
  byScope : List (Scope × Nat)

/-- Counts the templates of a catalog. -/
def statistics (c : Catalog) : Statistics where
  total := c.templates.length
  active := c.templates.countP (·.isActive)
  withExpress := c.templates.countP (·.hasExpressOption)
  withDiscounts := c.templates.countP fun t => !t.discountTiers.isEmpty
  byScope := (c.templates.map (·.scope)).eraseDups.map fun s =>
    (s, c.templates.countP fun t => t.scope == s)

end Catalog

end Tariff
