import Tariff.Number.Numeral
import Tariff.Text.Digit
import Tariff.Value

/-!
# Arguments of the command line

A trial of a formula takes the formula and any number of values for its names. What starts with a
hyphen is taken for an option unless it is a number or holds a space; after a lone double hyphen
nothing is.

## Main definitions

* `Tariff.CommandLine.isOption` — whether an argument is taken for an option.
* `Tariff.CommandLine.positional?` — the formula and what follows it.
* `Tariff.CommandLine.assignments?` — values for names.
-/

set_option autoImplicit false

namespace Tariff.CommandLine

open Tariff.Text

/-- A text without one line feed at its end. -/
def withoutLineFeed (cs : List Char) : List Char :=
  if cs.getLast? == some '\n' then cs.dropLast else cs

/-- Whether a text is a run of digits, or a point with digits after it and maybe before it. -/
def isPlainNumber (cs : List Char) : Bool :=
  let fraction := cs.dropWhile isDigit
  match fraction with
  | [] => !cs.isEmpty
  | '.' :: digits => !digits.isEmpty && digits.all isDigit
  | _ => false

/-- Whether an argument is taken for an option. A lone hyphen is none, nor is what follows a hyphen
with a plain number or with a space in it; but what starts like the option for help is one. -/
def isOption (arg : String) : Bool :=
  match arg.toList with
  | '-' :: c :: rest =>
    if c == 'h' then true
    else if c == '-' && (rest.takeWhile (· != '=')).isPrefixOf "help".toList then true
    else !isPlainNumber (withoutLineFeed (c :: rest)) && !rest.contains ' ' && c != ' '
  | _ => false

/-- Takes the first double hyphen out of a list. -/
def withoutSeparator (args : List String) : List String :=
  args.erase "--"

/-- The formula and what follows it. The first double hyphen is dropped; where it stands next to the
formula, so is the first one of what follows. -/
def positional? (args : List String) : Option (String × List String) :=
  let front := args.takeWhile (· != "--")
  let back := args.drop front.length
  if front.any isOption then none
  else match front, back with
    | formula :: rest, back =>
      if rest.isEmpty then some (formula, withoutSeparator (back.drop 1))
      else some (formula, withoutSeparator (rest ++ back))
    | [], _ :: formula :: rest => some (formula, withoutSeparator rest)
    | [], _ => none

/-- The name and the text of an assignment, which are the parts before and after the first equals
sign. -/
def splitAssignment? (arg : String) : Option (String × String) :=
  let cs := arg.toList
  let name := cs.takeWhile (· != '=')
  match cs.drop name.length with
  | _ :: text => some (String.ofList name, String.ofList text)
  | [] => none

/-- Values for names, on top of those given before. -/
def assignFrom (values : List (String × Float)) : List String → Option (List (String × Float))
  | [] => some values
  | arg :: rest => do
    let (name, text) ← splitAssignment? arg
    let x ← Number.readFloat? text
    assignFrom (assign (trim name) x values) rest

/-- Values for names, of which a later one replaces an earlier one of the same name. -/
def assignments? (args : List String) : Option (List (String × Float)) :=
  assignFrom [] args

end Tariff.CommandLine
