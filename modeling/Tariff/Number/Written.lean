import Tariff.Number.Shortest

/-!
# Numbers in writing

Four ways of writing a number: a whole number, a double by its shortest decimal, a double with
fixed places and a double with six significant digits. Digits may be grouped by thousands.

## Main definitions

* `Tariff.Number.integerText` — a whole number in decimal.
* `Tariff.Number.roundedQuotient` — a quotient rounded to the nearest whole number.
* `Tariff.Number.shortestText` — the shortest text that reads back as the double.
* `Tariff.Number.fixedText` — a double with a fixed number of decimals.
* `Tariff.Number.generalText` — a double with at most six significant digits.
* `Tariff.Number.grouped` — digits in groups of three.
-/

set_option autoImplicit false

namespace Tariff.Number

/-- The decimal digits of a whole number. -/
def digitsOf (n : Nat) : List Char :=
  Nat.toDigits 10 n

/-- A whole number in decimal, with a minus sign if it is negative. -/
def integerText (n : Int) : String :=
  String.ofList (if n < 0 then '-' :: digitsOf n.natAbs else digitsOf n.natAbs)

/-- A quotient rounded to the nearest whole number; a tie goes to the even one. -/
def roundedQuotient (numerator denominator : Nat) : Nat :=
  let q := numerator / denominator
  let r := numerator % denominator
  if 2 * r < denominator || (2 * r == denominator && q % 2 == 0) then q else q + 1

/-- Digits in groups of three, counted from the right, with `mark` between the groups. The digits
are given and returned backwards. -/
def groupedBackwards (mark : Char) : List Char → List Char
  | a :: b :: c :: d :: rest => a :: b :: c :: mark :: groupedBackwards mark (d :: rest)
  | digits => digits

/-- Digits in groups of three, counted from the right, with `mark` between the groups. -/
def grouped (mark : Char) (digits : List Char) : List Char :=
  (groupedBackwards mark digits.reverse).reverse

/-- An exponent: its mark, its sign and at least two digits. -/
def exponentText (e : Int) : List Char :=
  let digits := digitsOf e.natAbs
  'e' :: (if e < 0 then '-' else '+') :: (if digits.length < 2 then '0' :: digits else digits)

/-- Digits with the point after the first of them and an exponent. -/
def scientific (digits : List Char) (e : Int) : List Char :=
  match digits with
  | [] => []
  | [d] => d :: exponentText e
  | d :: rest => d :: '.' :: rest ++ exponentText e

/-- Digits with the point where it belongs when the first digit counts `10 ^ e`. Without a
fraction there is no point. -/
def positional (digits : List Char) (e : Int) : List Char :=
  if e < 0 then '0' :: '.' :: (List.replicate (-e - 1).toNat '0' ++ digits)
  else
    let whole := e.toNat + 1
    if digits.length ≤ whole then digits ++ List.replicate (whole - digits.length) '0'
    else digits.take whole ++ '.' :: digits.drop whole

/-- Puts a minus sign in front of what is negative. -/
def signed (negative : Bool) (cs : List Char) : List Char :=
  if negative then '-' :: cs else cs

/-- What is written for a double that is not finite, and else what `write` makes of its parts. -/
def writtenWith (write : Bool → Nat → Int → List Char) (x : Float) : String :=
  String.ofList <| match Binary.ofFloat x with
    | .nan => ['n', 'a', 'n']
    | .infinite negative => signed negative ['i', 'n', 'f']
    | .finite negative m q => write negative m q

/-- The shortest text that reads back as the double. It has a point or an exponent; the exponent
is written below `10 ^ -4` and from `10 ^ 16` on. -/
def shortestText (x : Float) : String :=
  writtenWith (fun negative m q =>
    let d := if m = 0 then ⟨0, 0⟩ else shortest m q
    let digits := digitsOf d.digits
    let e := d.exponent + digits.length - 1
    let body :=
      if e < -4 || 16 ≤ e then scientific digits e
      else if 0 ≤ d.exponent then positional digits e ++ ['.', '0']
      else positional digits e
    signed negative body) x

/-- Digits with the point before the last `places` of them. -/
def pointBefore (places : Nat) (digits : List Char) : List Char × List Char :=
  let padded := List.replicate (places + 1 - digits.length) '0' ++ digits
  (padded.take (padded.length - places), padded.drop (padded.length - places))

/-- A double with a fixed number of decimals, rounded from its exact value; a tie goes to the even
digit. `arrange` may group the digits before the point. -/
def fixedWith (arrange : List Char → List Char) (places : Nat) (x : Float) : String :=
  writtenWith (fun negative m q =>
    let scaled := roundedQuotient (m * twoPow q.toNat * tenPow places) (twoPow (-q).toNat)
    let (whole, fraction) := pointBefore places (digitsOf scaled)
    signed negative (arrange whole ++ if places = 0 then [] else '.' :: fraction)) x

/-- A double with a fixed number of decimals. -/
def fixedText (places : Nat) (x : Float) : String :=
  fixedWith id places x

/-- Whether `10 ^ e` is at most a fraction. -/
def reaches (numerator denominator : Nat) (e : Int) : Bool :=
  tenPow e.toNat * denominator ≤ numerator * tenPow (-e).toNat

/-- The exponent of the first decimal digit of a fraction that is not zero. The estimate from the
binary lengths is at most three too small. -/
def leadingExponent (numerator denominator : Nat) : Int :=
  let estimate : Int := ((Nat.log2 numerator : Int) - Nat.log2 denominator) * 30103 / 100000 - 1
  if reaches numerator denominator (estimate + 3) then estimate + 3
  else if reaches numerator denominator (estimate + 2) then estimate + 2
  else if reaches numerator denominator (estimate + 1) then estimate + 1
  else estimate

/-- A fraction rounded to six significant digits; a tie goes to the even digit. -/
def sixDigits (numerator denominator : Nat) : Decimal :=
  let e := leadingExponent numerator denominator
  let n := roundedQuotient (numerator * tenPow (5 - e).toNat) (denominator * tenPow (e - 5).toNat)
  if n = tenPow 6 then ⟨tenPow 5, e - 4⟩ else ⟨n, e - 5⟩

/-- Digits without the zeros at their end. -/
def withoutTrailingZeros (digits : List Char) : List Char :=
  (digits.reverse.dropWhile (· == '0')).reverse

/-- A double with at most six significant digits and no zeros at the end. The exponent is written
below `10 ^ -4` and from `10 ^ 6` on. -/
def generalText (x : Float) : String :=
  writtenWith (fun negative m q =>
    if m = 0 then signed negative ['0']
    else
      let d := sixDigits (m * twoPow q.toNat) (twoPow (-q).toNat)
      let e := d.exponent + 5
      let digits := withoutTrailingZeros (digitsOf d.digits)
      signed negative (if e < -4 || 6 ≤ e then scientific digits e else positional digits e)) x

end Tariff.Number
