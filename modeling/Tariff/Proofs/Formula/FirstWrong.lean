import Tariff.Proofs.Formula.Descent.Misplaced
import Tariff.Proofs.Formula.Exactness
import Tariff.Proofs.Formula.Greedy

/-!
# Where a syntax error points

An error about a token that stands where it cannot, or about the end of the formula there, points at
the first wrong token: the tokens before it are a front of a formula, and no formula has this token
after them.

## Main definitions

* `Tariff.Formula.IsFirstWrong` — what is wrong first in a sequence of tokens.

## Main results

* `Tariff.Formula.points_at_first_wrong` — where an error points.
-/

set_option autoImplicit false

namespace Tariff.Formula

open Tariff.Text

/-- The tokens `before` are a front of a formula with calls of functions only, but no formula goes
on with the first token of `after`, or ends there if there is none. -/
structure IsFirstWrong (before after : List Token) : Prop where
  /-- the tokens before can be continued to what the grammar derives -/
  extendable : Extendable (IsFormed .conditional) (before.map Token.lexeme)
  /-- the grammar derives nothing that starts with the tokens up to the next one -/
  next : ∀ t ∈ after.head?, ∀ more p,
    ¬ Derives .conditional (before.map Token.lexeme ++ t.lexeme :: more) p
  /-- the grammar does not derive the tokens before, if they are all -/
  stop : after = [] → ∀ p, ¬ Derives .conditional (before.map Token.lexeme) p

/-- Where the scan halts, something is wrong for the first time. -/
lemma IsFirstWrong.of_halts {before after : List Token} {s : Scan}
    (hrun : Scan.run (.operand []) (before.map Token.lexeme) = some s) (hhalts : s.Halts after)
    (hext : Extendable (IsFormed .conditional) (before.map Token.lexeme)) :
    IsFirstWrong before after where
  extendable := hext
  next := by
    intro t ht more p
    cases after with
    | nil => simp at ht
    | cons u rest =>
      obtain rfl : u = t := by simpa using ht
      exact Scan.not_derives_of_next_eq_none hrun hhalts
  stop := by
    rintro rfl p
    exact Scan.not_derives_of_not_isPast hrun hhalts

variable {limits : Limits} {f : String} {e : Error} {found : Option String} {pos : Nat}

/-- **Syntax errors point at the first wrong token.** If reading a formula fails because of a token
that is found where it cannot stand, or where another one is required, then the tokens of the line
of the formula fall into those before a place and those after it. The message quotes the text of the
token at this place, which stands in the line there, or names the end of the formula if no token is
left; the position is that of the token, or the length of the line.
The tokens before the place can be continued to what the grammar derives, with calls of functions
only; the tokens up to the one at the place cannot be continued to anything that it derives.

**Proof sketch.** The descent keeps both facts at each of its calls (`Descent.blocks`): what has
been taken is the front of an instance of the symbol at hand, and the scan of it halts at the token
that the error is about. The scan gets through whatever is derived
(`Scan.exists_run_of_derives`). -/
theorem points_at_first_wrong (h : parse limits (some f) = .error e)
    (he : e.misplaced? = some (found, pos)) :
    (∃ start, e.message = start ++ foundText found ++ positionText pos) ∧
    ∃ before after, tokens (oneLineChars f) = .ok (before ++ after) ∧
      found = after.head?.map (·.lexeme.text) ∧
      pos = (after.head?.map Token.position).getD (oneLineChars f).length ∧
      (∀ text, found = some text → ((oneLineChars f).drop pos).take text.length = text.toList) ∧
      IsFirstWrong before after := by
  refine ⟨Error.exists_message he, ?_⟩
  obtain ⟨ts, hts, hwhole⟩ : ∃ ts, tokens (oneLineChars f) = .ok ts ∧
      Descent.whole ⟨limits.depth, (oneLineChars f).length⟩ ts = .error e := by
    rcases parse_eq_error_cases h with rfl | ⟨_, rfl⟩ | ⟨_, rfl⟩ | ⟨_, _, rfl⟩ | h
    · contradiction
    · contradiction
    · contradiction
    · contradiction
    · exact h
  obtain ⟨before, after, s, rfl, habout, hrun, hhalts, hext⟩ :=
    Descent.blocked_of_whole hwhole (by rw [he, Option.isSome_some])
  obtain ⟨rfl, rfl⟩ := Prod.mk.inj (Option.some.inj (he.symm.trans habout))
  have hwrong := IsFirstWrong.of_halts hrun hhalts hext
  cases after with
  | nil => exact ⟨before, [], hts, rfl, rfl, by simp [Descent.found], hwrong⟩
  | cons t rest =>
    refine ⟨before, t :: rest, hts, rfl, rfl, ?_, hwrong⟩
    rintro text ⟨⟩
    exact (tokens_eq_ok_iff.1 hts).isCutInto.slice t (by simp)

/-- Where two arguments of a call have no comma between them, the second one is the first wrong
token. -/
theorem points_at_first_wrong_missingComma :
    ∃ before after, tokens (oneLineChars "max(1, 2 3)") = .ok (before ++ after) ∧
      after.head?.map (·.lexeme.text) = some "3" ∧ after.head?.map Token.position = some 9 ∧
      IsFirstWrong before after := by
  have hcheck : ((parse .standard (some "max(1, 2 3)")).map fun _ => ()).mapError
      Error.misplaced? = .error (some (some "3", 9)) := by decide +kernel
  obtain ⟨e, hparse, he⟩ := mapError_eq_error.1 hcheck
  rw [map_eq_error] at hparse
  obtain ⟨-, before, after, hts, hfound, hpos, -, hwrong⟩ := points_at_first_wrong hparse he
  cases after with
  | nil => cases hfound
  | cons t rest => exact ⟨before, t :: rest, hts, hfound.symm, congrArg some hpos.symm, hwrong⟩

end Tariff.Formula
