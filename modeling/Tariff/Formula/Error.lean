import Tariff.Formula.Operator
import Tariff.Number.Written

/-!
# What can be wrong with a formula

Causes and their wording. An `Error` stops the reading or the evaluation of a formula. A `Problem`
or a `Warning` is one line in the report of a check, which lists all it finds.

## Main definitions

* `Tariff.Formula.Error` — the causes that stop; `Error.message` is their wording.
* `Tariff.Formula.Problem` — what makes a formula unfit to be saved.
* `Tariff.Formula.Warning` — what is worth a second look.
-/

set_option autoImplicit false

namespace Tariff.Formula

open Tariff.Number

/-- The two ways in which parentheses fail to balance. -/
inductive Imbalance where
  /-- a closing parenthesis has no opening one before it -/
  | unopened
  /-- an opening parenthesis has no closing one after it -/
  | unclosed
  deriving DecidableEq

/-- The wording of an imbalance. -/
def Imbalance.message : Imbalance → String
  | .unopened => "Closing parenthesis without opening"
  | .unclosed => "Unclosed parenthesis"

/-- The tokens that may be required at a place. -/
inductive Required where
  | closeParen | colon
  deriving DecidableEq

/-- The spelling of a required token. -/
def Required.symbol : Required → String
  | .closeParen => ")"
  | .colon => ":"

/-- The causes that stop the reading or the evaluation of a formula. A token that was found is
given by its text, and the end of the formula by none. -/
inductive Error where
  /-- the formula holds nothing but blanks -/
  | empty
  /-- the formula is longer than the limit -/
  | tooLong (length : Nat) (limit : Int)
  /-- the parentheses do not balance -/
  | unbalanced (cause : Imbalance)
  /-- no token starts with this character -/
  | unexpectedCharacter (c : Char) (position : Nat)
  /-- a token stands where it cannot -/
  | unexpectedToken (found : Option String) (position : Nat)
  /-- a token stands in the place of a required one -/
  | expected (required : Required) (found : Option String) (position : Nat)
  /-- a name that is called is no function -/
  | unknownFunction (name : String)
  /-- a function is called with too few or too many arguments -/
  | wrongCount (f : Function) (given position : Nat)
  /-- the formula is nested deeper than the limit -/
  | tooDeep (limit : Int) (position : Nat)
  /-- reading the formula takes calls that are nested more deeply than the host permits; the reading
  of `Tariff.Formula.parse` has as many as it takes and never ends so -/
  | exhausted
  /-- a name has no value; the names that have one are listed -/
  | unknownVariable (name : String) (available : List String)
  /-- the value of a name is no number -/
  | notNumeric (name : String)
  /-- null stands where a number is needed -/
  | nullOperand
  /-- the formula as a whole is null -/
  | nullResult
  /-- the result is not a number -/
  | undefinedResult
  /-- the result is infinite -/
  | infiniteResult
  /-- a number of digits to round to is no whole number -/
  | fractionalDigits (digits : Float)
  /-- a number of digits to round to is out of range -/
  | digitsOutOfRange (digits : Float)

/-- The text of a token that was found, in quotes. -/
def foundText (found : Option String) : String :=
  "'" ++ found.getD "end of formula" ++ "'"

/-- A place in a formula, as it ends a message. -/
def positionText (position : Nat) : String :=
  " (at position " ++ integerText position ++ ")"

/-- The wording of an unknown name. -/
def unknownVariableText (name : String) (available : List String) : String :=
  "Unknown variable: \"" ++ name ++ "\". Available: " ++
    if available.isEmpty then "(none)" else ", ".intercalate available

/-- The wording of an unknown function. -/
def unknownFunctionText (name : String) : String :=
  "Unknown or forbidden function: " ++ name ++ "()"

/-- The number of arguments that a function takes, in words. -/
def Function.countText (f : Function) : String :=
  match f.most with
  | none => "at least " ++ integerText f.fewest
  | some most =>
    if f.fewest = most then integerText most
    else integerText f.fewest ++ " to " ++ integerText most

/-- The number of digits to which a formula may round lies between this one and its negative. -/
def roundingLimit : Nat := 15

/-- The wording of an error. -/
def Error.message : Error → String
  | empty => "Formula cannot be empty"
  | tooLong n limit =>
    "Formula is too long (" ++ integerText n ++ " characters, limit " ++ integerText limit ++ ")"
  | unbalanced cause => cause.message
  | unexpectedCharacter c p =>
    "Unexpected character '" ++ String.singleton c ++ "'" ++ positionText p
  | unexpectedToken found p => "Unexpected token " ++ foundText found ++ positionText p
  | expected required found p =>
    "Expected '" ++ required.symbol ++ "' but found " ++ foundText found ++ positionText p
  | unknownFunction name => unknownFunctionText name
  | wrongCount f given p =>
    f.name ++ "() expects " ++ f.countText ++ " argument(s), got " ++ integerText given ++
      positionText p
  | tooDeep limit p =>
    "Formula is nested too deeply (limit " ++ integerText limit ++ ")" ++ positionText p
  | exhausted => "Formula is nested too deeply"
  | unknownVariable name available => unknownVariableText name available
  | notNumeric name => "Variable \"" ++ name ++ "\" is not a number"
  | nullOperand => "null cannot be used in a calculation"
  | nullResult => "Formula evaluation did not return a valid number"
  | undefinedResult =>
    "Formula evaluation did not return a valid number (possible division by zero)"
  | infiniteResult => "Formula evaluation resulted in infinity (possible division by zero)"
  | fractionalDigits d => "round() expects a whole number of digits, got " ++ generalText d
  | digitsOutOfRange d =>
    "round() digits must be between -" ++ integerText roundingLimit ++ " and " ++
      integerText roundingLimit ++ ", got " ++ generalText d

/-- What makes a formula unfit to be saved. -/
inductive Problem where
  /-- a word is forbidden anywhere in a formula -/
  | forbidden (word : String)
  /-- a name that is called is no function -/
  | unknownFunction (name : String)
  /-- a name is none of those that a formula may use -/
  | unknownVariable (name : String) (available : List String)
  /-- the formula cannot be read -/
  | unreadable (cause : Error)

/-- The wording of a problem. -/
def Problem.message : Problem → String
  | forbidden word => "Forbidden keyword: " ++ word
  | unknownFunction name => unknownFunctionText name
  | unknownVariable name available => unknownVariableText name available
  | unreadable cause => cause.message

/-- What is worth a second look in a formula. -/
inductive Warning where
  /-- some fields have no part in the formula -/
  | unusedFields (keys : List String)
  /-- something is divided by a number that is written as zero -/
  | zeroDivisor

/-- The wording of a warning. -/
def Warning.message : Warning → String
  | unusedFields keys => "Unused fields in formula: " ++ ", ".intercalate keys
  | zeroDivisor => "Potential division by zero detected"

end Tariff.Formula
