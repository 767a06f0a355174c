import Tariff.Template
import Tariff.Value

/-!
# Collisions

Two active templates collide when their scopes name the same thing, so that both are for the same
product. Each thing that a scope names has a key in writing. The templates are grouped by the keys,
and a group of more than one is a collision, which is reported for the merchant to review.

## Main definitions

* `Tariff.Template.scopeKeys` — the keys of the scope of a template.
* `Tariff.Target` — one thing that a scope names; `Target.ofKey?` finds it from its key.
* `Tariff.Collision.grouped` — templates grouped by their keys.
* `Tariff.Collision` — the templates that name the same thing; `Collision.all` finds all.
-/

set_option autoImplicit false

namespace Tariff

/-- The key of the scope of all products. -/
def globalKey : String := "GLOBAL:*"

/-- The keys of the scope of a template: the one for all products, or one for each of its values,
however often that is given. -/
def Template.scopeKeys (t : Template) : List String :=
  match t.scope with
  | .global => [globalKey]
  | scope => t.scopeValues.eraseDups.map fun v => scope.name ++ ":" ++ v

/-- One thing that a scope names; the scope of all products names nothing in particular. -/
structure Target where
  scope : Scope
  value : Option String
  deriving DecidableEq

/-- A target in writing: the scope and the value, or an asterisk for all products. -/
def Target.text (k : Target) : String :=
  k.scope.name ++ ":" ++ k.value.getD "*"

/-- The target of a key, whose scope stands before the first colon. -/
def Target.ofKey? (key : String) : Option Target :=
  let isNoColon := fun c : Char => c != ':'
  let value := String.ofList ((key.toList.dropWhile isNoColon).drop 1)
  (Scope.ofName? (String.ofList (key.toList.takeWhile isNoColon))).map fun scope =>
    ⟨scope, if key == globalKey then none else some value⟩

/-- The things that the scope of a template names, each once. -/
def Template.targets (t : Template) : List Target :=
  match t.scope with
  | .global => [⟨.global, none⟩]
  | scope => t.scopeValues.eraseDups.map fun v => ⟨scope, some v⟩

/-- The templates whose scopes name the same thing. -/
structure Collision where
  target : Target
  templates : List Template

namespace Collision

/-- Templates by their keys, in the order in which the keys came up first. -/
abbrev Groups : Type :=
  List (String × List Template)

/-- Groups with one more template under a key. -/
def enter (t : Template) (groups : Groups) (key : String) : Groups :=
  assign key ((lookup? key groups).getD [] ++ [t]) groups

/-- Groups with a template under each of its keys, if it is active. -/
def enterAll (groups : Groups) (t : Template) : Groups :=
  if t.isActive then t.scopeKeys.foldl (enter t) groups else groups

/-- The active templates among some, grouped by their keys. -/
def grouped (templates : List Template) : Groups :=
  templates.foldl enterAll []

/-- The collision that a group is, unless its key names no scope. -/
def ofGroup? (group : String × List Template) : Option Collision :=
  (Target.ofKey? group.1).map fun k => ⟨k, group.2⟩

/-- The collisions among templates, unless there is a key that names no scope. -/
def all? (templates : List Template) : Option (List Collision) :=
  ((grouped templates).filter fun group => 1 < group.2.length).mapM ofGroup?

/-- The collisions among templates, in the order in which their keys come up. -/
def all (templates : List Template) : List Collision :=
  (all? templates).getD []

end Collision

end Tariff
