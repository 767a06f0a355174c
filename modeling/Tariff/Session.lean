import Tariff.Settings

/-!
# Sessions

A session holds the environment of a program and the settings taken from it. They are taken when
they are first needed and then kept, whatever becomes of the environment, until they are dropped.

## Main definitions

* `Tariff.Session` — an environment and the settings in force.
* `Tariff.Session.settings` — the settings, taken from the environment if there are none yet.
* `Tariff.Session.limitsIf` — what formulas have to keep to, if it matters.
-/

set_option autoImplicit false

namespace Tariff

/-- An environment and the settings in force. -/
structure Session where
  /-- the folder of the program -/
  folder : String
  /-- the values of settings by their names -/
  environment : List (String × String)
  /-- the settings in force, once they have been taken -/
  current : Option Settings

namespace Session

/-- A session in which nothing is set. -/
def start (folder : String) : Session :=
  ⟨folder, [], none⟩

/-- Gives a setting a value in the environment. -/
def put (s : Session) (name value : String) : Session :=
  { s with environment := assign name value s.environment }

/-- Removes a setting from the environment. -/
def remove (s : Session) (name : String) : Session :=
  { s with environment := s.environment.filter (·.1 != name) }

/-- Drops the settings in force. -/
def drop (s : Session) : Session :=
  { s with current := none }

/-- The settings that the environment has, for a program in a folder. -/
def fresh (s : Session) (folder : String) : Except Fault Settings :=
  Settings.ofEnvironment folder fun name => lookup? name s.environment

/-- The settings in force. -/
def settings (s : Session) : Except Fault (Settings × Session) :=
  match s.current with
  | some found => .ok (found, s)
  | none => do
    let found ← s.fresh s.folder
    .ok (found, { s with current := some found })

/-- What formulas have to keep to. The settings are not taken if it does not matter. -/
def limitsIf (s : Session) (matters : Bool) : Except Fault (Formula.Limits × Session) :=
  if matters then do
    let (found, s) ← s.settings
    .ok (found.limits, s)
  else .ok (.standard, s)

end Session

end Tariff
