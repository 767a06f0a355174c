import Tariff.Fault

/-!
# Documents

Reading a value from JSON text. The text is cut into tokens, and a machine with a stack of open
containers takes them one by one, so that of several things wrong the first in the text is found.
Numbers may also be `NaN`, `Infinity` and `-Infinity`.

## Main definitions

* `Tariff.Document.Token` — what the text is cut into; `Document.tokens` cuts it.
* `Tariff.Document.Machine` — what has been read so far; `Machine.step` takes one token.
* `Tariff.Document.read` — the value of a whole text.
-/

set_option autoImplicit false

namespace Tariff.Document

open Tariff.Number

/-- What can be wrong with the text of a document. -/
inductive Error where
  /-- the text is not JSON -/
  | malformed
  /-- a whole number has more digits than are read -/
  | integerTooLong (digits : Nat)

/-- The pieces of a document's text. -/
inductive Token where
  | openList
  | closeList
  | openObject
  | closeObject
  | comma
  | colon
  /-- a text, without its quotes and escapes -/
  | text (s : String)
  /-- a run of the characters of numbers and words -/
  | atom (cs : List Char)
  /-- the place where no token starts, or where one breaks off -/
  | malformed

/-- Whether a character may stand between tokens. -/
def isSpace (c : Char) : Bool :=
  c == ' ' || c == '\t' || c == '\n' || c == '\r'

/-- Whether a character belongs to a number or a word. -/
def isAtomic (c : Char) : Bool :=
  c.isAlphanum || c == '-' || c == '+' || c == '.'

/-- The token that a single character is. -/
def punctuation? (c : Char) : Option Token :=
  match c with
  | '[' => some .openList
  | ']' => some .closeList
  | '\x7b' => some .openObject
  | '\x7d' => some .closeObject
  | ',' => some .comma
  | ':' => some .colon
  | _ => none

/-- The value of a hexadecimal digit. -/
def hexValue? (c : Char) : Option Nat :=
  if c.isDigit then some (c.toNat - '0'.toNat)
  else if 'a' ≤ c ∧ c ≤ 'f' then some (c.toNat - 'a'.toNat + 10)
  else if 'A' ≤ c ∧ c ≤ 'F' then some (c.toNat - 'A'.toNat + 10)
  else none

/-- The character that a one-letter escape stands for. -/
def escaped? (c : Char) : Option Nat :=
  match c with
  | '"' => some '"'.toNat
  | '\\' => some '\\'.toNat
  | '/' => some '/'.toNat
  | 'b' => some 8
  | 'f' => some 12
  | 'n' => some 10
  | 'r' => some 13
  | 't' => some 9
  | _ => none

/-- The characters of a text from its code units: a high surrogate joins the low one after it, and
one that stands alone becomes the replacement character. -/
def joinUnits : List Nat → List Char
  | [] => []
  | [u] => [if 0xd800 ≤ u ∧ u < 0xe000 then Char.ofNat 0xfffd else Char.ofNat u]
  | u :: v :: rest =>
    if 0xd800 ≤ u ∧ u < 0xdc00 ∧ 0xdc00 ≤ v ∧ v < 0xe000 then
      Char.ofNat (0x10000 + (u - 0xd800) * 0x400 + (v - 0xdc00)) :: joinUnits rest
    else
      (if 0xd800 ≤ u ∧ u < 0xe000 then Char.ofNat 0xfffd else Char.ofNat u) :: joinUnits (v :: rest)

/-- The part of a token that has been read; characters and code units are kept backwards. -/
inductive Pending where
  /-- between tokens -/
  | none
  /-- inside a number or a word -/
  | atom (read : List Char)
  /-- inside a text -/
  | text (units : List Nat)
  /-- after the backslash of an escape -/
  | escape (units : List Nat)
  /-- inside the digits of an escape: their count and their value -/
  | code (units : List Nat) (count value : Nat)

/-- The end of a token in front of a character, or of the end of the text. -/
def Pending.finish : Pending → List Token
  | .none => []
  | .atom read => [.atom read.reverse]
  | .text _ | .escape _ | .code _ _ _ => [.malformed]

/-- The tokens of a text of which a part of the first has been read. -/
def tokensFrom : Pending → List Char → List Token
  | p, [] => p.finish
  | .text units, c :: rest =>
    if c == '"' then .text (String.ofList (joinUnits units.reverse)) :: tokensFrom .none rest
    else if c == '\\' then tokensFrom (.escape units) rest
    else if c.toNat < 0x20 then [.malformed]
    else tokensFrom (.text (c.toNat :: units)) rest
  | .escape units, c :: rest =>
    if c == 'u' then tokensFrom (.code units 0 0) rest
    else match escaped? c with
      | some u => tokensFrom (.text (u :: units)) rest
      | none => [.malformed]
  | .code units count value, c :: rest =>
    match hexValue? c with
    | some d =>
      if count = 3 then tokensFrom (.text ((16 * value + d) :: units)) rest
      else tokensFrom (.code units (count + 1) (16 * value + d)) rest
    | none => [.malformed]
  | .none, c :: rest =>
    if c == '"' then tokensFrom (.text []) rest
    else if isAtomic c then tokensFrom (.atom [c]) rest
    else if isSpace c then tokensFrom .none rest
    else match punctuation? c with
      | some t => t :: tokensFrom .none rest
      | none => [.malformed]
  | .atom read, c :: rest =>
    if isAtomic c then tokensFrom (.atom (c :: read)) rest
    else if c == '"' then .atom read.reverse :: tokensFrom (.text []) rest
    else if isSpace c then .atom read.reverse :: tokensFrom .none rest
    else match punctuation? c with
      | some t => .atom read.reverse :: t :: tokensFrom .none rest
      | none => [.atom read.reverse, .malformed]

/-- The tokens of a text. -/
def tokens (s : String) : List Token :=
  tokensFrom .none s.toList

/-- The digits at the start of a text, and the rest. -/
def takeDigits (cs : List Char) : List Char × List Char :=
  (cs.takeWhile Char.isDigit, cs.dropWhile Char.isDigit)

/-- The digits before the point: a zero alone, or digits that start with another one. -/
def takeWhole : List Char → List Char × List Char
  | '0' :: rest => (['0'], rest)
  | cs => takeDigits cs

/-- The point and the digits after it, if both are there, and the rest. -/
def takeFraction : List Char → List Char × List Char
  | '.' :: rest =>
    let (digits, after) := takeDigits rest
    if digits.isEmpty then ([], '.' :: rest) else ('.' :: digits, after)
  | cs => ([], cs)

/-- The exponent, if a complete one is there, and the rest. -/
def takeExponent (cs : List Char) : List Char × List Char :=
  match cs with
  | e :: rest =>
    if e == 'e' || e == 'E' then
      let sign := rest.takeWhile fun c => c == '+' || c == '-'
      let (digits, after) := takeDigits (rest.drop sign.length)
      if digits.isEmpty || 1 < sign.length then ([], cs) else (e :: sign ++ digits, after)
    else ([], cs)
  | [] => ([], [])

/-- The value of a number: a double if it has a point or an exponent. Too long a number is found
before what follows its digits. -/
def number (cs : List Char) : Except Error Value :=
  let (sign, unsigned) : List Char × List Char :=
    match cs with
    | '-' :: rest => (['-'], rest)
    | _ => ([], cs)
  let (whole, afterWhole) := takeWhole unsigned
  let (fraction, afterFraction) := takeFraction afterWhole
  let (exponent, rest) := takeExponent afterFraction
  if whole.isEmpty then .error .malformed
  else if fraction.isEmpty && exponent.isEmpty then
    match readInteger (String.ofList (sign ++ whole)) with
    | .tooLong n => .error (.integerTooLong n)
    | .invalid => .error .malformed
    | .value n => if rest.isEmpty then .ok (.int n) else .error .malformed
  else if !rest.isEmpty then .error .malformed
  else match readFloat? (String.ofList (sign ++ whole ++ fraction ++ exponent)) with
    | some x => .ok (.float x)
    | none => .error .malformed

/-- The value of a word or a number. -/
def atomValue (cs : List Char) : Except Error Value :=
  match String.ofList cs with
  | "null" => .ok .null
  | "true" => .ok (.bool true)
  | "false" => .ok (.bool false)
  | "NaN" => .ok (.float (0.0 / 0.0))
  | "Infinity" => .ok (.float (1.0 / 0.0))
  | "-Infinity" => .ok (.float (-1.0 / 0.0))
  | _ => number cs

/-- A container that is still open: its items backwards, or its members and the name of the next. -/
inductive Frame where
  | list (items : List Value)
  | object (members : List (String × Value)) (name : String)

/-- What may come next. -/
inductive Expected where
  /-- a value -/
  | value
  /-- a value, or the end of the list just opened -/
  | firstItem
  /-- a name -/
  | name
  /-- a name, or the end of the object just opened -/
  | firstName
  /-- the colon after a name -/
  | colon
  /-- a comma, or the end of the innermost container -/
  | separator
  /-- nothing: the value is complete -/
  | nothing

/-- What has been read so far. -/
structure Machine where
  /-- the open containers, innermost first -/
  frames : List Frame
  /-- what may come next -/
  expected : Expected
  /-- the value, once it is complete -/
  result : Value

/-- Puts a complete value where it belongs. -/
def Machine.put (m : Machine) (v : Value) : Machine :=
  match m.frames with
  | [] => ⟨[], .nothing, v⟩
  | .list items :: outer => ⟨.list (v :: items) :: outer, .separator, m.result⟩
  | .object members name :: outer =>
    ⟨.object (assign name v members) name :: outer, .separator, m.result⟩

/-- Takes a token where a value may come. -/
def Machine.beginValue (m : Machine) : Token → Except Error Machine
  | .openList => .ok ⟨.list [] :: m.frames, .firstItem, m.result⟩
  | .openObject => .ok ⟨.object [] "" :: m.frames, .firstName, m.result⟩
  | .text s => .ok (m.put (.text s))
  | .atom cs => (atomValue cs).map m.put
  | _ => .error .malformed

/-- Takes the end of the innermost container. -/
def Machine.close (m : Machine) (t : Token) : Except Error Machine :=
  match t, m.frames with
  | .closeList, .list items :: outer => .ok ({ m with frames := outer }.put (.list items.reverse))
  | .closeObject, .object members _ :: outer =>
    .ok ({ m with frames := outer }.put (.object members))
  | _, _ => .error .malformed

/-- Takes the name of a member. -/
def Machine.nameMember (m : Machine) (s : String) : Except Error Machine :=
  match m.frames with
  | .object members _ :: outer => .ok ⟨.object members s :: outer, .colon, m.result⟩
  | _ => .error .malformed

/-- Takes one token. -/
def Machine.step (m : Machine) (t : Token) : Except Error Machine :=
  match m.expected, t with
  | .value, t => m.beginValue t
  | .firstItem, .closeList => m.close .closeList
  | .firstItem, t => m.beginValue t
  | .name, .text s => m.nameMember s
  | .firstName, .text s => m.nameMember s
  | .firstName, .closeObject => m.close .closeObject
  | .colon, .colon => .ok { m with expected := .value }
  | .separator, .comma =>
    match m.frames with
    | .object _ _ :: _ => .ok { m with expected := .name }
    | _ => .ok { m with expected := .value }
  | .separator, t => m.close t
  | _, _ => .error .malformed

/-- The machine before the first token. -/
def Machine.start : Machine :=
  ⟨[], .value, .null⟩

/-- The value of a whole text. -/
def read (s : String) : Except Error Value := do
  let m ← (tokens s).foldlM Machine.step Machine.start
  match m.expected with
  | .nothing => .ok m.result
  | _ => .error .malformed

end Tariff.Document
