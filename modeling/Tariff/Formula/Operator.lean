/-!
# Operators and functions of formulas

The vocabulary of the formula language besides numbers and names. Nothing else can be called from
a formula.

## Main definitions

* `Tariff.Formula.Operator` — the operators between two operands, and their three levels.
* `Tariff.Formula.Sign` — the signs in front of an operand.
* `Tariff.Formula.Function` — the functions, by name and by the number of arguments they take.
-/

set_option autoImplicit false

namespace Tariff.Formula

/-- The operators between two operands. -/
inductive Operator where
  | add | sub | mul | div | pow | lt | le | gt | ge | eq | ne
  deriving DecidableEq, Inhabited

/-- The spelling of an operator. -/
def Operator.symbol : Operator → String
  | .add => "+"
  | .sub => "-"
  | .mul => "*"
  | .div => "/"
  | .pow => "^"
  | .lt => "<"
  | .le => "<="
  | .gt => ">"
  | .ge => ">="
  | .eq => "=="
  | .ne => "!="

/-- The levels of left-associative operators, from the loosest to the tightest. -/
inductive Level where
  | comparison | additive | multiplicative
  deriving DecidableEq

/-- The level of an operator; the power has none, as it associates to the right. -/
def Operator.level? : Operator → Option Level
  | .lt | .le | .gt | .ge | .eq | .ne => some .comparison
  | .add | .sub => some .additive
  | .mul | .div => some .multiplicative
  | .pow => none

/-- The signs in front of an operand. -/
inductive Sign where
  | plus | minus
  deriving DecidableEq

/-- The sign that an operator is when it stands in front of an operand. -/
def Operator.sign? : Operator → Option Sign
  | .add => some .plus
  | .sub => some .minus
  | _ => none

/-- The functions. -/
inductive Function where
  | floor | ceil | round | min | max | choose | abs | sqrt | pow
  deriving DecidableEq

namespace Function

/-- The name of a function, in small letters. -/
def name : Function → String
  | floor => "floor"
  | ceil => "ceil"
  | round => "round"
  | min => "min"
  | max => "max"
  | choose => "if"
  | abs => "abs"
  | sqrt => "sqrt"
  | pow => "pow"

/-- All functions. -/
def all : List Function :=
  [floor, ceil, round, min, max, choose, abs, sqrt, pow]

/-- The function of a name in small letters. -/
def ofName? (s : String) : Option Function :=
  all.find? (·.name == s)

/-- The least number of arguments. -/
def fewest : Function → Nat
  | choose => 3
  | pow => 2
  | _ => 1

/-- The greatest number of arguments, if there is one. -/
def most : Function → Option Nat
  | min | max => none
  | choose => some 3
  | round | pow => some 2
  | floor | ceil | abs | sqrt => some 1

/-- Whether a function takes this many arguments. -/
def admits (f : Function) (n : Nat) : Bool :=
  f.fewest ≤ n && f.most.all (n ≤ ·)

end Function

end Tariff.Formula
