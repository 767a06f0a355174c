/-!
# Blank characters

One class of blank characters serves the formula language, the readers of numbers and every
check that a text holds something.

## Main definitions

* `Tariff.Text.isBlank` — the class of blank characters.
* `Tariff.Text.trim` — a text without the blanks at its ends.
* `Tariff.Text.isBlankText` — whether a text holds nothing but blanks.
-/

set_option autoImplicit false

namespace Tariff.Text

/-- The blank characters: tab to carriage return, the four information separators, the space,
the next-line character and the spaces and line breaks of Unicode. -/
def isBlank (c : Char) : Bool :=
  let n := c.toNat
  (0x09 ≤ n && n ≤ 0x0d) || (0x1c ≤ n && n ≤ 0x20) || n == 0x85 || n == 0xa0 || n == 0x1680 ||
    (0x2000 ≤ n && n ≤ 0x200a) || n == 0x2028 || n == 0x2029 || n == 0x202f || n == 0x205f ||
    n == 0x3000

/-- Characters without the blanks at both ends. -/
def trimBlanks (cs : List Char) : List Char :=
  ((cs.dropWhile isBlank).reverse.dropWhile isBlank).reverse

/-- A text without the blanks at both ends. -/
def trim (s : String) : String :=
  String.ofList (trimBlanks s.toList)

/-- Whether a text is empty or holds blanks only. -/
def isBlankText (s : String) : Bool :=
  s.toList.all isBlank

end Tariff.Text
