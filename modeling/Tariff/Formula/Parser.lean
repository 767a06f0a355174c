import Tariff.Formula.Layout
import Tariff.Formula.Token
import Tariff.Formula.Tree
import Tariff.Number.Numeral
import Tariff.Text.Case

/-!
# Reading a formula

From the tokens of a formula to its tree, by recursive descent. From the loosest to the tightest
the levels are

* the conditional `condition ? value : value`, which associates to the right,
* comparisons, sums and products, which associate to the left,
* signs in front of an operand,
* the power `^`, which associates to the right and whose exponent may carry a sign,
* numbers, names, calls and parentheses.

Each sign, exponent, parenthesis and argument nests what it holds one deeper, and the depth is
limited. The functions of the descent also carry a bound on the number of steps, which stands for
how deep the host permits calls to be nested. `parse` sets it high enough for every formula: it
reads as on a host that permits as many calls as the formula takes, and the error of running out of
them is there for the readers that have fewer.

## Main definitions

* `Tariff.Formula.Descent` — what holds for the reading of one formula.
* `Tariff.Formula.Descent.conditional` — the descent from its top level.
* `Tariff.Formula.parse` — the tree of a formula.
-/

set_option autoImplicit false

namespace Tariff.Formula

open Tariff.Text

/-- What holds for the reading of one formula. -/
structure Descent where
  /-- how deep the formula may be nested -/
  limit : Int
  /-- the place where the formula ends -/
  stop : Nat

/-- What was read, and the tokens after it. -/
abbrev Parsed (α : Type) : Type :=
  α × List Token

namespace Descent

/-- The place of the next token. -/
def position (d : Descent) : List Token → Nat
  | [] => d.stop
  | t :: _ => t.position

/-- The text of the next token. -/
def found : List Token → Option String
  | [] => none
  | t :: _ => some t.lexeme.text

/-- Takes a token that must be there. -/
def require (d : Descent) (required : Required) (ts : List Token) : Except Error (List Token) :=
  match ts, required with
  | ⟨.closeParen, _⟩ :: rest, .closeParen => .ok rest
  | ⟨.colon, _⟩ :: rest, .colon => .ok rest
  | _, _ => .error (.expected required (found ts) (d.position ts))

/-- The operator of a level at the start of some tokens, and the rest. -/
def operator? (level : Level) : List Token → Option (Operator × List Token)
  | ⟨.operator op, _⟩ :: rest => if op.level? = some level then some (op, rest) else none
  | _ => none

/-- The sign at the start of some tokens, and the rest. -/
def sign? : List Token → Option (Sign × List Token)
  | ⟨.operator op, _⟩ :: rest => op.sign?.map (·, rest)
  | _ => none

/-- What a name stands for when it is not called: three words have a fixed meaning in letters of
any case, and one more means the same as one of them. -/
def meaning (name : String) : Tree :=
  match lowerAscii name with
  | "true" => .number 1.0
  | "false" => .number 0.0
  | "null" | "undefined" => .null
  | _ => .named name

/-- The number that digits denote. -/
def numberTree (digits : String) : Tree :=
  .number ((Number.readFloat? digits).getD 0.0)

/-- The call of a function with the arguments that were read. -/
def call (f : Function) (position : Nat) (args : List Tree) : Except Error Tree :=
  match f.call? args with
  | some t => .ok t
  | none => .error (.wrongCount f args.length position)

variable (d : Descent)

mutual

/-- Reads a conditional. `steps` bounds the steps and `depth` is how much deeper the formula may be
nested, here and below. -/
def conditional (steps depth : Nat) (ts : List Token) : Except Error (Parsed Tree) :=
  match steps with
  | 0 => .error .exhausted
  | steps + 1 => do
    let (condition, ts) ← chain steps depth .comparison ts
    match ts with
    | ⟨.question, _⟩ :: ts =>
      let (whenTrue, ts) ← conditional steps depth ts
      let ts ← d.require .colon ts
      let (whenFalse, ts) ← conditional steps depth ts
      .ok (.choice condition whenTrue whenFalse, ts)
    | _ => .ok (condition, ts)
termination_by structural steps

/-- Reads operands with the operators of a level between them. -/
def chain (steps depth : Nat) (level : Level) (ts : List Token) : Except Error (Parsed Tree) :=
  match steps with
  | 0 => .error .exhausted
  | steps + 1 => do
    let (left, ts) ← operand steps depth level ts
    chainAfter steps depth level left ts
termination_by structural steps

/-- Reads what follows the operand `left` in a chain. -/
def chainAfter (steps depth : Nat) (level : Level) (left : Tree) (ts : List Token) :
    Except Error (Parsed Tree) :=
  match steps with
  | 0 => .error .exhausted
  | steps + 1 =>
    match operator? level ts with
    | none => .ok (left, ts)
    | some (op, rest) => do
      let (right, ts) ← operand steps depth level rest
      chainAfter steps depth level (.binary op left right) ts
termination_by structural steps

/-- Reads an operand of a level: a chain of the next tighter one, or an operand with a sign. -/
def operand (steps depth : Nat) (level : Level) (ts : List Token) : Except Error (Parsed Tree) :=
  match steps with
  | 0 => .error .exhausted
  | steps + 1 =>
    match level with
    | .comparison => chain steps depth .additive ts
    | .additive => chain steps depth .multiplicative ts
    | .multiplicative => signed steps depth ts
termination_by structural steps

/-- Reads an operand with any number of signs. Here the formula gets one deeper. -/
def signed (steps depth : Nat) (ts : List Token) : Except Error (Parsed Tree) :=
  match steps, depth with
  | 0, _ => .error .exhausted
  | _ + 1, 0 => .error (.tooDeep d.limit (d.position ts))
  | steps + 1, depth + 1 =>
    match sign? ts with
    | some (sign, rest) => do
      let (t, ts) ← signed steps depth rest
      .ok (.signed sign t, ts)
    | none => powered steps depth ts
termination_by structural steps

/-- Reads a primary with an optional exponent. -/
def powered (steps depth : Nat) (ts : List Token) : Except Error (Parsed Tree) :=
  match steps with
  | 0 => .error .exhausted
  | steps + 1 => do
    let (base, ts) ← primary steps depth ts
    match ts with
    | ⟨.operator .pow, _⟩ :: rest =>
      let (exponent, ts) ← signed steps depth rest
      .ok (.binary .pow base exponent, ts)
    | _ => .ok (base, ts)
termination_by structural steps

/-- Reads a number, a name, a call or a conditional in parentheses. -/
def primary (steps depth : Nat) (ts : List Token) : Except Error (Parsed Tree) :=
  match steps with
  | 0 => .error .exhausted
  | steps + 1 =>
    match ts with
    | ⟨.number digits, _⟩ :: rest => .ok (numberTree digits, rest)
    | ⟨.name name, p⟩ :: ⟨.openParen, _⟩ :: rest =>
      match Function.ofName? (lowerAscii name) with
      | none => .error (.unknownFunction name)
      | some f => do
        let (args, ts) ← arguments steps depth rest
        let ts ← d.require .closeParen ts
        let t ← call f p args
        .ok (t, ts)
    | ⟨.name name, _⟩ :: rest => .ok (meaning name, rest)
    | ⟨.openParen, _⟩ :: rest => do
      let (t, ts) ← conditional steps depth rest
      let ts ← d.require .closeParen ts
      .ok (t, ts)
    | _ => .error (.unexpectedToken (found ts) (d.position ts))
termination_by structural steps

/-- Reads the arguments of a call, up to the closing parenthesis. -/
def arguments (steps depth : Nat) (ts : List Token) : Except Error (Parsed (List Tree)) :=
  match steps with
  | 0 => .error .exhausted
  | steps + 1 =>
    match ts with
    | ⟨.closeParen, _⟩ :: _ => .ok ([], ts)
    | _ => do
      let (first, ts) ← conditional steps depth ts
      let (others, ts) ← moreArguments steps depth ts
      .ok (first :: others, ts)
termination_by structural steps

/-- Reads the further arguments of a call, each after a comma. -/
def moreArguments (steps depth : Nat) (ts : List Token) : Except Error (Parsed (List Tree)) :=
  match steps with
  | 0 => .error .exhausted
  | steps + 1 =>
    match ts with
    | ⟨.comma, _⟩ :: rest => do
      let (next, ts) ← conditional steps depth rest
      let (others, ts) ← moreArguments steps depth ts
      .ok (next :: others, ts)
    | _ => .ok ([], ts)
termination_by structural steps

end

/-- A number of steps that suffices for the descent through some tokens. -/
def enoughSteps (ts : List Token) : Nat :=
  12 * (ts.length + 1)

/-- The tree of all of some tokens. -/
def whole (ts : List Token) : Except Error Tree := do
  let (t, rest) ← d.conditional (enoughSteps ts) d.limit.toNat ts
  match rest with
  | [] => .ok t
  | _ => .error (.unexpectedToken (found rest) (d.position rest))

end Descent

/-- What a formula must keep to, to be read. -/
structure Limits where
  /-- how deep it may be nested -/
  depth : Int
  /-- how many characters it may have on one line, if that is limited -/
  length : Option Int

/-- The limits that hold when nothing else is said about them. -/
def Limits.standard : Limits := ⟨64, some 2000⟩

/-- Whether a text is longer than the limits permit, and the limit then. -/
def Limits.exceeded? (limits : Limits) (n : Nat) : Option Int :=
  limits.length.bind fun limit => if limit < n then some limit else none

/-- The tree of a formula; a missing formula counts as an empty one. There are as many steps as the
reading takes. -/
def parse (limits : Limits) (formula : Option String) : Except Error Tree := do
  let some formula := formula | .error .empty
  if isBlankText formula then .error .empty
  let cs := oneLineChars formula
  if let some limit := limits.exceeded? cs.length then .error (.tooLong cs.length limit)
  if let some cause := imbalance? cs then .error (.unbalanced cause)
  let ts ← tokens cs
  Descent.whole ⟨limits.depth, cs.length⟩ ts

end Tariff.Formula
