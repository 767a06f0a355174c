import Tariff.Formula.Parser

/-!
# Checking a formula before it is saved

A check evaluates nothing. It looks at the words of the text for what is forbidden or unknown, so
that it can report all of that at once, and reads the formula only if nothing of the kind is found.

## Main definitions

* `Tariff.Formula.Word` — a run of letters, digits and underscores with its surroundings.
* `Tariff.Formula.calledNames`, `Tariff.Formula.usedNames` — the names that a text calls and those
  that it uses otherwise.
* `Tariff.Formula.dividesByZero` — whether a text divides by a number that is written as zero.
* `Tariff.Formula.Report` — what a check finds; `Tariff.Formula.check` checks.
-/

set_option autoImplicit false

namespace Tariff.Formula

open Tariff.Text

/-- A maximal run of letters, digits and underscores with its surroundings. -/
structure Word where
  /-- the character before the run -/
  before : Option Char
  /-- the run -/
  run : List Char
  /-- the text after the run -/
  after : List Char

/-- The word of a run, which is given backwards, unless the run is empty. -/
def wordOf (before : Option Char) (run after : List Char) : List Word :=
  if run.isEmpty then [] else [⟨before, run.reverse, after⟩]

/-- The words of a text. The part of a run that has been read is given backwards, with the character
before it. -/
def wordsFrom (before : Option Char) (run : List Char) : List Char → List Word
  | [] => wordOf before run []
  | c :: rest =>
    if isNameChar c then wordsFrom before (c :: run) rest
    else wordOf before run (c :: rest) ++ wordsFrom (some c) [] rest

/-- The words of a text. -/
def words (cs : List Char) : List Word :=
  wordsFrom none [] cs

namespace Word

/-- Whether an opening parenthesis follows, after any blanks. -/
def isCalled (w : Word) : Bool :=
  (w.after.dropWhile isBlank).head? == some '('

/-- The name that a word calls: it starts at the first character that is no digit. -/
def calledName? (w : Word) : Option String :=
  let name := w.run.dropWhile Char.isDigit
  if w.isCalled && !name.isEmpty then some (String.ofList name) else none

/-- The name that a word is. No name starts with a digit, follows a point or is called. -/
def usedName? (w : Word) : Option String :=
  if w.run.head?.any isNameStart && w.before != some '.' && !w.isCalled then
    some (String.ofList w.run)
  else none

end Word

/-- Whether a name has a meaning of its own, so that it needs no field. -/
def isLiteralName (name : String) : Bool :=
  ["true", "false", "null", "undefined"].contains (lowerAscii name)

/-- The names that a text calls, each once. -/
def calledNames (cs : List Char) : List String :=
  ((words cs).filterMap Word.calledName?).eraseDups

/-- The names that a text uses without calling them, each once. -/
def usedNames (cs : List Char) : List String :=
  (((words cs).filterMap Word.usedName?).filter fun name => !isLiteralName name).eraseDups

/-- The words that are forbidden anywhere in a formula, also inside a longer word. -/
def forbiddenWords : List String :=
  ["eval", "Function", "require", "import", "export", "process", "__proto__", "constructor"]

/-- Whether a text holds another one. -/
def holdsText (sought : List Char) : List Char → Bool
  | [] => sought.isEmpty
  | c :: rest => sought.isPrefixOf (c :: rest) || holdsText sought rest

/-- Whether a run of digits, alone or before a point and a second run, has a digit other than
zero. -/
def hasNonzeroDigit (cs : List Char) : Bool :=
  let isNonzero := fun c : Char => c != '0'
  (cs.takeWhile Char.isDigit).any isNonzero ||
    match cs.dropWhile Char.isDigit with
    | '.' :: rest => (rest.takeWhile Char.isDigit).any isNonzero
    | _ => false

/-- Whether a text starts with a number that is written as zero. -/
def startsWithZero : List Char → Bool
  | '0' :: rest => !hasNonzeroDigit rest
  | _ => false

/-- Whether a text divides by a number that is written as zero. -/
def dividesByZero : List Char → Bool
  | [] => false
  | c :: rest => (c == '/' && startsWithZero (rest.dropWhile isBlank)) || dividesByZero rest

/-- The names that a formula may use besides the keys of its fields. -/
def systemNames : List String := ["base_price"]

/-- The names that a formula may use, keys first. -/
def availableNames (keys : List String) : List String :=
  keys ++ systemNames.filter fun name => !keys.contains name

/-- What a check finds. -/
structure Report where
  /-- what makes the formula unfit to be saved -/
  problems : List Problem
  /-- what is worth a second look -/
  warnings : List Warning

/-- Whether a formula is fit to be saved. -/
def Report.isValid (r : Report) : Bool :=
  r.problems.isEmpty

/-- The problems that show in the words of a text: parentheses, forbidden words, functions and
names. -/
def wordProblems (cs : List Char) (keys : List String) : List Problem :=
  let available := availableNames keys
  ((imbalance? cs).toList.map fun cause => .unreadable (.unbalanced cause)) ++
    ((forbiddenWords.filter fun word => holdsText word.toList cs).map .forbidden) ++
    (((calledNames cs).filter fun name => (Function.ofName? (lowerAscii name)).isNone).map
      .unknownFunction) ++
    (((usedNames cs).filter fun name => !available.contains name).map
      fun name => .unknownVariable name available)

/-- The problem that shows when a formula is read. An unknown function is not one of them, since it
shows in the words. -/
def readingProblems (limits : Limits) (formula : String) : List Problem :=
  match parse limits (some formula) with
  | .ok _ | .error (.unknownFunction _) => []
  | .error cause => [.unreadable cause]

/-- The keys of the fields that have no part in a text. -/
def unusedKeys (cs : List Char) (keys : List String) : List String :=
  keys.filter fun key => !(usedNames cs).contains key

/-- The warnings about a text. -/
def warningsFor (cs : List Char) (keys : List String) : List Warning :=
  let unused := unusedKeys cs keys
  (if unused.isEmpty then [] else [.unusedFields unused]) ++
    if dividesByZero cs then [.zeroDivisor] else []

/-- Whether a check comes to read a formula, so that its limits matter: the formula is not blank and
its words show no problem. -/
def comesToRead (formula : Option String) (keys : List String) : Bool :=
  formula.any fun f =>
    !isBlankText f && (wordProblems (oneLineChars f) keys.eraseDups).isEmpty

/-- Checks a formula against the keys of the fields that it may use. A key counts once. -/
def check (limits : Limits) (formula : Option String) (keys : List String) : Report :=
  match formula with
  | none => ⟨[.unreadable .empty], []⟩
  | some formula =>
    if isBlankText formula then ⟨[.unreadable .empty], []⟩
    else
      let cs := oneLineChars formula
      let keys := keys.eraseDups
      let inWords := wordProblems cs keys
      ⟨if inWords.isEmpty then readingProblems limits (String.ofList cs) else inWords,
        warningsFor cs keys⟩

end Tariff.Formula
