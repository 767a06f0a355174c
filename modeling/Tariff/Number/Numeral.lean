import Tariff.Number.Binary
import Tariff.Text.Blank
import Tariff.Text.Digit

/-!
# Reading numerals

Whole numbers and doubles from text: with blanks around them, in the digits of any script, with
single underscores between digits.

## Main definitions

* `Tariff.Number.scanDigits` — the digits at the start of a text.
* `Tariff.Number.readInteger` — a whole number; `IntegerReading` says what else may come out.
* `Tariff.Number.readFloat?` — the double nearest to a decimal, an infinity or not-a-number.
-/

set_option autoImplicit false

namespace Tariff.Number

open Tariff.Text

/-- The blanks that may stand around a numeral: all but the four information separators. -/
def isNumeralBlank (c : Char) : Bool :=
  isBlank c && !(0x1c ≤ c.toNat && c.toNat ≤ 0x1f)

/-- The characters of a numeral without the blanks around it. -/
def withoutNumeralBlanks (s : String) : List Char :=
  ((s.toList.dropWhile isNumeralBlank).reverse.dropWhile isNumeralBlank).reverse

/-- The digits that continue a numeral, each of which may follow an underscore, and the rest. -/
def scanMore : List Char → List Nat × List Char
  | [] => ([], [])
  | ['_'] => ([], ['_'])
  | '_' :: c :: rest =>
    match digitValue? c with
    | some d => (d :: (scanMore rest).1, (scanMore rest).2)
    | none => ([], '_' :: c :: rest)
  | c :: rest =>
    match digitValue? c with
    | some d => (d :: (scanMore rest).1, (scanMore rest).2)
    | none => ([], c :: rest)

/-- The digits at the start of a text, with single underscores between them, and the rest. -/
def scanDigits (cs : List Char) : List Nat × List Char :=
  match cs with
  | [] => ([], [])
  | c :: rest =>
    match digitValue? c with
    | some d => (d :: (scanMore rest).1, (scanMore rest).2)
    | none => ([], c :: rest)

/-- The whole number that a list of decimal digits denotes. -/
def digitsValue (ds : List Nat) : Nat :=
  ds.foldl (fun n d => 10 * n + d) 0

/-- Takes an optional sign off a text. -/
def takeSign : List Char → Bool × List Char
  | '-' :: rest => (true, rest)
  | '+' :: rest => (false, rest)
  | cs => (false, cs)

/-- What comes of reading a whole number. -/
inductive IntegerReading where
  /-- the number -/
  | value (n : Int)
  /-- a numeral with more digits than are read -/
  | tooLong (digits : Nat)
  /-- a text that is no numeral -/
  | invalid

/-- The most digits that a numeral of a whole number may have, to be read or written. -/
def digitLimit : Nat := 4300

/-- Reads a whole number. A misplaced underscore is found before an excess of digits, and that
before anything else that follows the digits. -/
def readInteger (s : String) : IntegerReading :=
  let (negative, cs) := takeSign (withoutNumeralBlanks s)
  let (digits, rest) := scanDigits cs
  if digits.isEmpty || rest.head? == some '_' then .invalid
  else if digitLimit < digits.length then .tooLong digits.length
  else if !rest.isEmpty then .invalid
  else
    let n : Int := digitsValue digits
    .value (if negative then -n else n)

/-- Whether a whole number has no more digits than are written. -/
def isWritable (n : Int) : Bool :=
  n.natAbs < tenPow digitLimit

/-- The double nearest to `digits * 10 ^ exponent`. Far beyond the finite doubles it is infinite,
and far below the least one zero, whatever the digits are. -/
def nearest (digits : List Nat) (exponent : Int) : Float :=
  let significant := digits.dropWhile (· == 0)
  let size := significant.length + exponent
  if significant.isEmpty || size < -330 then 0.0
  else if 310 < size then 1.0 / 0.0
  else Float.ofScientific (digitsValue significant) (exponent < 0) exponent.natAbs

/-- The exponent of a numeral, if a complete one stands at the start of a text, and the rest. -/
def scanExponent (cs : List Char) : Int × List Char :=
  match cs with
  | [] => (0, [])
  | c :: after =>
    if c == 'e' || c == 'E' then
      let (negative, cs') := takeSign after
      let (digits, rest) := scanDigits cs'
      if digits.isEmpty then (0, cs)
      else
        let n : Int := digitsValue digits
        (if negative then -n else n, rest)
    else (0, cs)

/-- Reads a decimal without sign: digits with an optional point and an optional exponent. -/
def readDecimal? (cs : List Char) : Option Float :=
  let (whole, afterWhole) := scanDigits cs
  let (fraction, afterFraction) : List Nat × List Char :=
    match afterWhole with
    | '.' :: rest => scanDigits rest
    | _ => ([], afterWhole)
  let (exponent, rest) := scanExponent afterFraction
  if (whole.isEmpty && fraction.isEmpty) || !rest.isEmpty then none
  else some (nearest (whole ++ fraction) (exponent - fraction.length))

/-- The double that a text without sign denotes: a decimal or a word, in letters of any case. -/
def readMagnitude? (cs : List Char) : Option Float :=
  let word := cs.map Char.toLower
  if word == ['i', 'n', 'f'] || word == ['i', 'n', 'f', 'i', 'n', 'i', 't', 'y'] then
    some (1.0 / 0.0)
  else if word == ['n', 'a', 'n'] then some (0.0 / 0.0)
  else readDecimal? cs

/-- Reads a double: the nearest one to the number that the text denotes. -/
def readFloat? (s : String) : Option Float :=
  let (negative, cs) := takeSign (withoutNumeralBlanks s)
  (readMagnitude? cs).map fun x => if negative then -x else x

end Tariff.Number
