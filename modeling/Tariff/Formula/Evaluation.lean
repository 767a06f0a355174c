import Tariff.Failure
import Tariff.Formula.Parser
import Tariff.Money.Rounding

/-!
# The value of a formula

A formula is evaluated under values for its names. All parts of it are evaluated, from left to
right, also the one of two values that a condition does not choose. The evaluation goes down the
tree by nested calls, and the host permits only so many of them: the evaluation of a tree that is
deeper ends in a fault. A chain of operators is as deep as it is long, whatever the limit of the
depth is to which a formula is read.

## Main definitions

* `Tariff.Formula.Bindings` — values for names.
* `Tariff.Formula.Tree.calls` — how deep calls are nested in the evaluation of a tree.
* `Tariff.Formula.Tree.eval` — the value of a tree, which may be null.
* `Tariff.Formula.value` — the value of a formula, a finite number.
* `Tariff.Formula.price` — that value, rounded as a price.
* `Tariff.Formula.trial` — the outcome of evaluating a formula on trial.
-/

set_option autoImplicit false

namespace Tariff.Formula

open Tariff.Number Tariff.Money

/-- Values for names. A value may turn out to be no number only when its name is met. -/
abbrev Bindings : Type :=
  List (String × Value)

/-- The names in a list of bindings, in order. -/
def sortedNames (bindings : Bindings) : List String :=
  (bindings.map (·.1)).mergeSort (· ≤ ·)

/-- A truth value as a number. -/
def truth (b : Bool) : Float :=
  if b then 1.0 else 0.0

/-- The number under a name. -/
def numberOf (bindings : Bindings) (name : String) : Except Failure Float :=
  match lookup? name bindings with
  | none => .error (.formula (.unknownVariable name (sortedNames bindings)))
  | some (.bool b) => .ok (truth b)
  | some (.float x) => .ok x
  | some (.int n) =>
    match ofInt? n with
    | some x => .ok x
    | none => .error (.fault .tooLarge)
  | some _ => .error (.formula (.notNumeric name))

/-- A number that is needed: null is none. -/
def needed : Option Float → Except Failure Float
  | some x => .ok x
  | none => .error (.formula .nullOperand)

/-- The value of an operator. A comparison is one or zero. -/
def Operator.eval (op : Operator) (x y : Float) : Float :=
  match op with
  | .add => x + y
  | .sub => x - y
  | .mul => x * y
  | .div => x / y
  | .pow => power x y
  | .lt => truth (x < y)
  | .le => truth (x ≤ y)
  | .gt => truth (y < x)
  | .ge => truth (y ≤ x)
  | .eq => truth (x == y)
  | .ne => truth (!(x == y))

/-- The value of a sign. -/
def Sign.eval (sign : Sign) (x : Float) : Float :=
  match sign with
  | .plus => x
  | .minus => -x

/-- The double of the whole number beside a double; what is not finite stays as it is. -/
def wholeBeside (f : Float → Option Int) (x : Float) : Float :=
  match f x with
  | some n => Float.ofInt n
  | none => x

/-- The value of a function of one number. A number below zero, or none at all, has no root. -/
def Mapping.eval (f : Mapping) (x : Float) : Float :=
  match f with
  | .floor => wholeBeside floor? x
  | .ceil => wholeBeside ceiling? x
  | .abs => x.abs
  | .sqrt => if 0.0 ≤ x then x.sqrt else 0.0 / 0.0

/-- Whether a number takes the place of the one picked before. Nothing takes the place of an equal
number, nor anything of what is not a number, or that of anything. -/
def Extreme.replaces (e : Extreme) (x picked : Float) : Bool :=
  match e with
  | .least => x < picked
  | .greatest => picked < x

/-- The number that is picked of several. -/
def Extreme.eval (e : Extreme) (first : Float) (others : List Float) : Float :=
  others.foldl (fun picked x => if e.replaces x picked then x else picked) first

/-- A number rounded to a number of digits, which has to be whole and within the limit. -/
def roundDigits (x digits : Float) : Except Failure Float :=
  if !isWhole digits then .error (.formula (.fractionalDigits digits))
  else
    let n := (truncation? digits).getD 0
    if roundingLimit < n.natAbs then .error (.formula (.digitsOutOfRange digits))
    else .ok (roundWith (powerOfTen n) x)

/-- Whether a condition holds: it is a number other than zero. -/
def holds : Option Float → Bool
  | none => false
  | some x => !(x == 0.0) && !x.isNaN

/-! ### Calls

How deep calls are nested is counted in those that lead from the visit of a node to the visit of a
part of it, or to the number that a name stands for. What is called at a node with parts besides is
never nested deeper than these, since it has ended before they are visited or starts after that. The
calls that put an error together are not counted. -/

/-- The calls that lead to the number that a name stands for. -/
def callsToBinding : Nat := 1

/-- The calls that lead to an operand. -/
def callsToOperand : Nat := 2

/-- The calls that lead to one of the values of a choice. -/
def callsToChoice : Nat := 3

/-- The calls that lead to an argument of a function. -/
def callsToArgument : Nat := 4

/-- The room that is left inside of nested calls in an evaluation. -/
def inside (calls room : Nat) : Except Failure Nat :=
  Failure.ofFault (nest calls room)

namespace Tree

mutual

/-- How deep calls are nested in the evaluation of a tree. -/
def calls : Tree → Nat
  | number _ | null => 0
  | named _ => callsToBinding
  | signed _ t => callsToOperand + t.calls
  | binary _ l r => callsToOperand + max l.calls r.calls
  | choice c a b => callsToChoice + max c.calls (max a.calls b.calls)
  | mapped _ t | rounded t => callsToArgument + t.calls
  | roundedTo t u | power t u => callsToArgument + max t.calls u.calls
  | extreme _ t ts => callsToArgument + max t.calls (callsIn ts)

/-- How deep calls are nested in the evaluation of several trees. -/
def callsIn : List Tree → Nat
  | [] => 0
  | t :: ts => max t.calls (callsIn ts)

end

mutual

/-- The value of a tree, or none for null. There is room for so many nested calls. -/
def eval (bindings : Bindings) (room : Nat) : Tree → Except Failure (Option Float)
  | number x => .ok (some x)
  | null => .ok none
  | named name => do
    let _ ← inside callsToBinding room
    (numberOf bindings name).map some
  | signed sign t => do
    let room ← inside callsToOperand room
    let x ← needed (← t.eval bindings room)
    .ok (some (sign.eval x))
  | binary op l r => do
    let room ← inside callsToOperand room
    let x ← needed (← l.eval bindings room)
    let y ← needed (← r.eval bindings room)
    .ok (some (op.eval x y))
  | choice c a b => do
    let room ← inside callsToChoice room
    let condition ← c.eval bindings room
    let whenTrue ← a.eval bindings room
    let whenFalse ← b.eval bindings room
    .ok (if holds condition then whenTrue else whenFalse)
  | mapped f t => do
    let room ← inside callsToArgument room
    let x ← needed (← t.eval bindings room)
    .ok (some (f.eval x))
  | rounded t => do
    let room ← inside callsToArgument room
    let x ← needed (← t.eval bindings room)
    .ok (some (roundWith 1.0 x))
  | roundedTo t digits => do
    let room ← inside callsToArgument room
    let x ← needed (← t.eval bindings room)
    let n ← needed (← digits.eval bindings room)
    (roundDigits x n).map some
  | power b e => do
    let room ← inside callsToArgument room
    let x ← needed (← b.eval bindings room)
    let y ← needed (← e.eval bindings room)
    .ok (some (Number.power x y))
  | extreme e t ts => do
    let room ← inside callsToArgument room
    let x ← needed (← t.eval bindings room)
    let xs ← evalAll bindings room ts
    .ok (some (e.eval x xs))

/-- The numbers that several trees stand for. -/
def evalAll (bindings : Bindings) (room : Nat) : List Tree → Except Failure (List Float)
  | [] => .ok []
  | t :: ts => do
    let x ← needed (← t.eval bindings room)
    let xs ← evalAll bindings room ts
    .ok (x :: xs)

end

end Tree

/-- A result of a formula, if it is a finite number. -/
def finiteResult : Option Float → Except Failure Float
  | none => .error (.formula .nullResult)
  | some x =>
    if x.isNaN then .error (.formula .undefinedResult)
    else if x.isInf then .error (.formula .infiniteResult)
    else .ok x

/-- The value of a formula, a finite number. -/
def value (limits : Limits) (room : Nat) (formula : Option String) (bindings : Bindings) :
    Except Failure Float := do
  let t ← (parse limits formula).mapError .formula
  finiteResult (← t.eval bindings room)

/-- The value of a formula, rounded as a price. -/
def price (limits : Limits) (room : Nat) (formula : Option String) (bindings : Bindings) :
    Except Failure Float :=
  (value limits room formula bindings).map toCents

/-- The outcome of evaluating a formula on trial. -/
inductive Trial where
  /-- the value, and the names that the formula uses -/
  | value (result : Float) (used : List String)
  /-- what is wrong with the formula -/
  | rejected (cause : Error)

/-- Evaluates a formula on trial. What is wrong with the formula is an outcome, not a failure. -/
def trial (limits : Limits) (room : Nat) (formula : Option String) (bindings : Bindings) :
    Except Failure Trial :=
  match price limits room formula bindings with
  | .error (.formula cause) => .ok (.rejected cause)
  | .error f => .error f
  | .ok result =>
    match parse limits formula with
    | .error cause => .ok (.rejected cause)
    | .ok t => .ok (.value result t.names)

end Tariff.Formula
