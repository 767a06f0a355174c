import Tariff.Formula.Operator

/-!
# Trees of formulas

What a formula says, without its layout. Each function has its own form of node with a place for
each of its arguments, so a tree never holds a call with a wrong number of them.

## Main definitions

* `Tariff.Formula.Tree` — the trees.
* `Tariff.Formula.Function.call?` — the call of a function, if the number of arguments is right.
* `Tariff.Formula.Tree.names` — the names in a tree, each once, in the order of appearance.
-/

set_option autoImplicit false

namespace Tariff.Formula

/-- The functions of one number. -/
inductive Mapping where
  | floor | ceil | abs | sqrt
  deriving DecidableEq

/-- The functions that pick one of several numbers. -/
inductive Extreme where
  | least | greatest
  deriving DecidableEq

/-- What a formula says. -/
inductive Tree where
  /-- a number that is written in the formula -/
  | number (x : Float)
  /-- no value -/
  | null
  /-- the value of a name -/
  | named (name : String)
  /-- an operand with a sign -/
  | signed (sign : Sign) (operand : Tree)
  /-- two operands with an operator between them -/
  | binary (op : Operator) (left right : Tree)
  /-- one of two values, chosen by a condition -/
  | choice (condition whenTrue whenFalse : Tree)
  /-- a function of one number -/
  | mapped (f : Mapping) (argument : Tree)
  /-- a number rounded to a whole one -/
  | rounded (argument : Tree)
  /-- a number rounded to a number of digits -/
  | roundedTo (argument digits : Tree)
  /-- a power in the form of a call -/
  | power (base exponent : Tree)
  /-- the least or the greatest of some numbers -/
  | extreme (which : Extreme) (first : Tree) (others : List Tree)
  deriving Inhabited

/-- The call of a function, if it takes this number of arguments. -/
def Function.call? : Function → List Tree → Option Tree
  | .floor, [x] => some (.mapped .floor x)
  | .ceil, [x] => some (.mapped .ceil x)
  | .abs, [x] => some (.mapped .abs x)
  | .sqrt, [x] => some (.mapped .sqrt x)
  | .round, [x] => some (.rounded x)
  | .round, [x, digits] => some (.roundedTo x digits)
  | .min, x :: xs => some (.extreme .least x xs)
  | .max, x :: xs => some (.extreme .greatest x xs)
  | .choose, [c, a, b] => some (.choice c a b)
  | .pow, [x, y] => some (.power x y)
  | _, _ => none

/-- Calls exist for exactly the numbers of arguments that a function takes. -/
theorem Function.isSome_call? (f : Function) (args : List Tree) :
    (f.call? args).isSome = f.admits args.length := by
  rcases args with _ | ⟨a, _ | ⟨b, _ | ⟨c, _ | ⟨d, rest⟩⟩⟩⟩ <;> cases f <;>
    simp [Function.call?, Function.admits, Function.fewest, Function.most]

namespace Tree

mutual

/-- The names in a tree, as often as they appear in it, from left to right. -/
def occurrences : Tree → List String
  | number _ | null => []
  | named name => [name]
  | signed _ t | mapped _ t | rounded t => t.occurrences
  | binary _ l r | roundedTo l r | power l r => l.occurrences ++ r.occurrences
  | choice c a b => c.occurrences ++ a.occurrences ++ b.occurrences
  | extreme _ t ts => t.occurrences ++ occurrencesIn ts

/-- The names in several trees, as often as they appear in them. -/
def occurrencesIn : List Tree → List String
  | [] => []
  | t :: ts => t.occurrences ++ occurrencesIn ts

end

/-- The names in a tree, each once, in the order of their first appearance. -/
def names (t : Tree) : List String :=
  t.occurrences.eraseDups

end Tree

end Tariff.Formula
