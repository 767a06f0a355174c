import Tariff.Formula.Error
import Tariff.Text.Blank
import Tariff.Text.Digit

/-!
# Tokens of a formula

A formula is cut into lexemes from the left, each as long as it can be. Blanks separate lexemes
and are otherwise of no account.

## Main definitions

* `Tariff.Formula.Lexeme` — the pieces that a formula is made of.
* `Tariff.Formula.Lexeme.first?` — the longest lexeme at the start of a text.
* `Tariff.Formula.Token` — a lexeme and the place where it starts.
* `Tariff.Formula.tokens` — the tokens of a text.
-/

set_option autoImplicit false

namespace Tariff.Formula

open Tariff.Text

/-- The pieces that a formula is made of. -/
inductive Lexeme where
  /-- a number, in the digits of any script -/
  | number (digits : String)
  /-- a name -/
  | name (s : String)
  | operator (op : Operator)
  | openParen
  | closeParen
  | comma
  | question
  | colon
  deriving DecidableEq

namespace Lexeme

/-- The spelling of a lexeme. -/
def text : Lexeme → String
  | number digits => digits
  | name s => s
  | operator op => op.symbol
  | openParen => "("
  | closeParen => ")"
  | comma => ","
  | question => "?"
  | colon => ":"

end Lexeme

/-- Whether a character may start a name. -/
def isNameStart (c : Char) : Bool :=
  c.isAlpha || c == '_'

/-- Whether a character may continue a name. -/
def isNameChar (c : Char) : Bool :=
  c.isAlphanum || c == '_'

/-- The number at the start of a text: digits with an optional point and more digits, or a point
with digits after it. -/
def firstNumber? (cs : List Char) : Option (List Char) :=
  let whole := cs.takeWhile isDigit
  match cs.dropWhile isDigit with
  | '.' :: rest =>
    let fraction := rest.takeWhile isDigit
    if whole.isEmpty && fraction.isEmpty then none else some (whole ++ '.' :: fraction)
  | _ => if whole.isEmpty then none else some whole

/-- The operator or punctuation mark at the start of a text. -/
def firstMark? : List Char → Option Lexeme
  | '<' :: '=' :: _ => some (.operator .le)
  | '>' :: '=' :: _ => some (.operator .ge)
  | '=' :: '=' :: _ => some (.operator .eq)
  | '!' :: '=' :: _ => some (.operator .ne)
  | '<' :: _ => some (.operator .lt)
  | '>' :: _ => some (.operator .gt)
  | '+' :: _ => some (.operator .add)
  | '-' :: _ => some (.operator .sub)
  | '*' :: _ => some (.operator .mul)
  | '/' :: _ => some (.operator .div)
  | '^' :: _ => some (.operator .pow)
  | '(' :: _ => some .openParen
  | ')' :: _ => some .closeParen
  | ',' :: _ => some .comma
  | '?' :: _ => some .question
  | ':' :: _ => some .colon
  | _ => none

/-- The longest lexeme at the start of a text. -/
def Lexeme.first? (cs : List Char) : Option Lexeme :=
  match firstNumber? cs with
  | some digits => some (.number (String.ofList digits))
  | none =>
    if cs.head?.any isNameStart then some (.name (String.ofList (cs.takeWhile isNameChar)))
    else firstMark? cs

/-- A lexeme and the place where it starts, counted in characters. -/
structure Token where
  /-- the lexeme -/
  lexeme : Lexeme
  /-- the number of characters before it -/
  position : Nat
  deriving DecidableEq

/-- The tokens of a text that starts at `position`. The first `skip` characters belong to a token
that has been taken. -/
def tokensFrom (position skip : Nat) : List Char → Except Error (List Token)
  | [] => .ok []
  | c :: rest =>
    match skip with
    | k + 1 => tokensFrom (position + 1) k rest
    | 0 =>
      if isBlank c then tokensFrom (position + 1) 0 rest
      else match Lexeme.first? (c :: rest) with
        | none => .error (.unexpectedCharacter c position)
        | some l =>
          (tokensFrom (position + 1) (l.text.length - 1) rest).map (⟨l, position⟩ :: ·)

/-- The tokens of a text. -/
def tokens (cs : List Char) : Except Error (List Token) :=
  tokensFrom 0 0 cs

end Tariff.Formula
