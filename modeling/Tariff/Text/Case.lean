import Tariff.Text.Case.Table

/-!
# Small and capital letters

The full case mappings of Unicode. A letter may become several, and a capital sigma takes its
final form at the end of a word.

## Main definitions

* `Tariff.Text.lower`, `Tariff.Text.upper` — a text in small and in capital letters.
* `Tariff.Text.endsWord` — whether a capital sigma between two texts ends a word.
* `Tariff.Text.lowerAscii` — small letters for names that are ASCII by their grammar.
-/

set_option autoImplicit false

namespace Tariff.Text

/-- Whether a code point lies in one of the ranges, ends included. -/
def inRanges (ranges : List (Nat × Nat)) (c : Char) : Bool :=
  ranges.any fun r => r.1 ≤ c.toNat && c.toNat ≤ r.2

/-- The counterpart of a character in a list of runs, if it has one there. -/
def counterpart? (runs : List CaseRun) (c : Char) : Option Char :=
  (runs.find? (·.contains c.toNat)).map fun r => Char.ofNat ((c.toNat : Int) + r.distance).toNat

/-- Whether the first character that is not looked through is a letter with case. -/
def startsCased (cs : List Char) : Bool :=
  match cs.dropWhile (inRanges caseIgnorableRanges) with
  | [] => false
  | c :: _ => inRanges casedRanges c

/-- Whether a sigma ends a word: a letter with case stands before it and none after it. The text
before it is given backwards. -/
def endsWord (before after : List Char) : Bool :=
  startsCased before && !startsCased after

/-- The small form of one character that is not a capital sigma. The dotted capital `I` keeps its
dot as a combining character. -/
def lowerChar (c : Char) : List Char :=
  if c.toNat == 0x130 then ['i', Char.ofNat 0x307] else [(counterpart? lowerRuns c).getD c]

/-- The small form of the characters that follow `before`, which is given backwards. -/
def lowerAfter (before : List Char) : List Char → List Char
  | [] => []
  | c :: rest =>
    if c == 'Σ' then (if endsWord before rest then 'ς' else 'σ') :: lowerAfter (c :: before) rest
    else lowerChar c ++ lowerAfter (c :: before) rest

/-- A text in small letters. -/
def lower (s : String) : String :=
  String.ofList (lowerAfter [] s.toList)

/-- The capital form of one character. -/
def upperChar (c : Char) : List Char :=
  match upperExpansions.find? (·.1 == c.toNat) with
  | some (_, expansion) => expansion.map Char.ofNat
  | none => [(counterpart? upperRuns c).getD c]

/-- A text in capital letters. -/
def upper (s : String) : String :=
  String.ofList (s.toList.flatMap upperChar)

/-- A text with its ASCII letters small, for names that hold ASCII only. -/
def lowerAscii (s : String) : String :=
  String.ofList (s.toList.map Char.toLower)

end Tariff.Text
