import Mathlib.Tactic.Lemma
import Tariff.Formula.Evaluation
import Tariff.Proofs.Outcome

/-!
# How an evaluation fails

The evaluation of a tree fails because one of its names gives no number, because of the numbers that
come up, that is for null where a number is needed or for digits that cannot be rounded to, or
because calls are nested too deeply. Whatever else can be wrong with a formula has been found when
it was read.

## Main definitions

* `Tariff.Formula.Error.isNumeric` — the errors about the numbers that come up.
* `Tariff.Formula.StopsFor` — why the evaluation of what uses some names fails.

## Main results

* `Tariff.Formula.stopsFor_of_eval` — why the evaluation of a tree fails.
* `Tariff.Formula.value_error` — why a formula has no value.
-/

set_option autoImplicit false

namespace Tariff.Formula

open Tariff.Number

/-- Whether an error is about the numbers that come up in an evaluation, and not about the text of
the formula or the names in it. -/
def Error.isNumeric : Error → Bool
  | nullOperand | nullResult | undefinedResult | infiniteResult | fractionalDigits _
  | digitsOutOfRange _ => true
  | _ => false

/-- The failures of evaluating what uses some names. -/
inductive StopsFor (bindings : Bindings) (names : List String) : Failure → Prop where
  /-- one of the names gives no number -/
  | name {name : String} {f : Failure} (hname : name ∈ names)
    (h : numberOf bindings name = .error f) : StopsFor bindings names f
  /-- a numeric error -/
  | numeric {cause : Error} (h : cause.isNumeric = true) :
    StopsFor bindings names (.formula cause)
  /-- calls are nested too deeply -/
  | calls : StopsFor bindings names (.fault .callsExhausted)

section

variable {bindings : Bindings} {names others : List String} {f : Failure} {β : Type}
  {calls room inner : Nat}

/-- What uses more names fails for the same reasons. -/
lemma StopsFor.mono (h : StopsFor bindings names f) (hsub : names ⊆ others) :
    StopsFor bindings others f := by
  cases h with
  | name hname h => exact .name (hsub hname) h
  | numeric h => exact .numeric h
  | calls => exact .calls

/-- There is room inside of nested calls if there is room for them. -/
lemma inside_eq_ok_iff : inside calls room = .ok inner ↔ calls ≤ room ∧ inner = room - calls := by
  rw [inside, Failure.ofFault, mapError_eq_ok, nest_eq_ok_iff]

/-- There is no room for calls that are nested too deeply. -/
lemma inside_eq_error_iff :
    inside calls room = .error f ↔ room < calls ∧ f = .fault .callsExhausted := by
  simp only [inside, Failure.ofFault, mapError_eq_error, nest_eq_error_iff, and_assoc,
    exists_eq_left, exists_and_left, @eq_comm _ f]

/-- What lies inside of nested calls fails as it does, or because there is no room for the calls. -/
lemma stopsFor_or_of_inside {next : Nat → Except Failure β}
    (h : (inside calls room >>= next) = .error f) :
    StopsFor bindings names f ∨ ∃ room, next room = .error f := by
  rcases bind_eq_error.1 h with h | ⟨inner, -, h⟩
  · obtain ⟨-, rfl⟩ := inside_eq_error_iff.1 h
    exact .inl .calls
  · exact .inr ⟨inner, h⟩

/-- An operand that is needed fails as it does, or is null, or what comes after it fails. -/
lemma stopsFor_or_of_needed {r : Except Failure (Option Float)} {next : Float → Except Failure β}
    (hr : ∀ f, r = .error f → StopsFor bindings names f)
    (h : (r >>= fun v => needed v >>= next) = .error f) :
    StopsFor bindings names f ∨ ∃ x, next x = .error f := by
  rcases bind_eq_error.1 h with h | ⟨v, -, h⟩
  · exact .inl (hr f h)
  cases v with
  | none =>
    obtain rfl : Failure.formula .nullOperand = f := by simpa [needed, bind, Except.bind] using h
    exact .inl (.numeric rfl)
  | some x => exact .inr ⟨x, h⟩

/-- Rounding to a number of digits fails because of the digits. -/
lemma stopsFor_of_roundDigits {x digits : Float} (h : roundDigits x digits = .error f) :
    StopsFor bindings names f := by
  simp only [roundDigits] at h
  split at h
  · obtain rfl := Except.error.inj h
    exact .numeric rfl
  · split at h
    · obtain rfl := Except.error.inj h
      exact .numeric rfl
    · simp at h

end

mutual

/-- The evaluation of a tree fails because a name in it gives no number, for a numeric error, or
because calls are nested too deeply. -/
theorem stopsFor_of_eval (bindings : Bindings) (room : Nat) :
    ∀ (t : Tree) (f : Failure), t.eval bindings room = .error f → StopsFor bindings t.occurrences f
  | .number _, f, h => by simp [Tree.eval] at h
  | .null, f, h => by simp [Tree.eval] at h
  | .named name, f, h => by
    rw [Tree.eval] at h
    rcases stopsFor_or_of_inside h with h | ⟨-, h⟩
    · exact h
    · exact .name (by simp [Tree.occurrences]) (map_eq_error.1 h)
  | .signed _ t, f, h | .mapped _ t, f, h | .rounded t, f, h => by
    rw [Tree.eval] at h
    rcases stopsFor_or_of_inside h with h | ⟨room, h⟩
    · exact h
    rcases stopsFor_or_of_needed (stopsFor_of_eval bindings room t) h with h | ⟨x, h⟩
    · exact h.mono (by simp [Tree.occurrences])
    · simp at h
  | .binary _ l r, f, h | .power l r, f, h => by
    rw [Tree.eval] at h
    rcases stopsFor_or_of_inside h with h | ⟨room, h⟩
    · exact h
    rcases stopsFor_or_of_needed (stopsFor_of_eval bindings room l) h with h | ⟨x, h⟩
    · exact h.mono (by simp [Tree.occurrences])
    rcases stopsFor_or_of_needed (stopsFor_of_eval bindings room r) h with h | ⟨y, h⟩
    · exact h.mono (by simp [Tree.occurrences])
    · simp at h
  | .roundedTo t digits, f, h => by
    rw [Tree.eval] at h
    rcases stopsFor_or_of_inside h with h | ⟨room, h⟩
    · exact h
    rcases stopsFor_or_of_needed (stopsFor_of_eval bindings room t) h with h | ⟨x, h⟩
    · exact h.mono (by simp [Tree.occurrences])
    rcases stopsFor_or_of_needed (stopsFor_of_eval bindings room digits) h with h | ⟨n, h⟩
    · exact h.mono (by simp [Tree.occurrences])
    · exact stopsFor_of_roundDigits (map_eq_error.1 h)
  | .choice c a b, f, h => by
    rw [Tree.eval] at h
    rcases stopsFor_or_of_inside h with h | ⟨room, h⟩
    · exact h
    simp only [bind_eq_error] at h
    rcases h with h | ⟨_, -, h | ⟨_, -, h | ⟨_, -, h⟩⟩⟩
    · exact (stopsFor_of_eval bindings room c f h).mono (by simp [Tree.occurrences])
    · exact (stopsFor_of_eval bindings room a f h).mono (by simp [Tree.occurrences])
    · exact (stopsFor_of_eval bindings room b f h).mono (by simp [Tree.occurrences])
    · simp at h
  | .extreme _ t ts, f, h => by
    rw [Tree.eval] at h
    rcases stopsFor_or_of_inside h with h | ⟨room, h⟩
    · exact h
    rcases stopsFor_or_of_needed (stopsFor_of_eval bindings room t) h with h | ⟨x, h⟩
    · exact h.mono (by simp [Tree.occurrences])
    rcases bind_eq_error.1 h with h | ⟨xs, -, h⟩
    · exact (stopsFor_of_evalAll bindings room ts f h).mono (by simp [Tree.occurrences])
    · simp at h

/-- The evaluation of several trees fails because a name in one of them gives no number, for a
numeric error, or because calls are nested too deeply. -/
theorem stopsFor_of_evalAll (bindings : Bindings) (room : Nat) :
    ∀ (ts : List Tree) (f : Failure), Tree.evalAll bindings room ts = .error f →
      StopsFor bindings (Tree.occurrencesIn ts) f
  | [], f, h => by simp [Tree.evalAll] at h
  | t :: ts, f, h => by
    rw [Tree.evalAll] at h
    rcases stopsFor_or_of_needed (stopsFor_of_eval bindings room t) h with h | ⟨x, h⟩
    · exact h.mono (by simp [Tree.occurrencesIn])
    rcases bind_eq_error.1 h with h | ⟨xs, -, h⟩
    · exact (stopsFor_of_evalAll bindings room ts f h).mono (by simp [Tree.occurrencesIn])
    · simp at h

end

/-! ### Values of formulas -/

section

variable {limits : Limits} {room : Nat} {formula : Option String} {bindings : Bindings}
  {f : Failure} {t : Tree} {r : Option Float} {x : Float}

/-- A formula that is read as a tree has the value of the tree, if that is a finite number. -/
lemma value_of_parse (h : parse limits formula = .ok t) :
    value limits room formula bindings = t.eval bindings room >>= finiteResult := by
  rw [value, h]
  rfl

/-- A result that is not a number is an error. -/
lemma finiteResult_of_isNaN (h : x.isNaN = true) :
    finiteResult (some x) = .error (.formula .undefinedResult) := by
  rw [finiteResult, h]
  rfl

/-- A result that is a finite number is neither not-a-number nor infinite. -/
lemma finiteResult_eq_ok (h : finiteResult r = .ok x) : x.isNaN = false ∧ x.isInf = false := by
  unfold finiteResult at h
  split at h
  · simp at h
  · split at h
    · simp at h
    · next hnan =>
      split at h
      · simp at h
      · next hinf =>
        obtain rfl := Except.ok.inj h
        exact ⟨by simpa using hnan, by simpa using hinf⟩

/-- A result that is no finite number is a numeric error. -/
lemma finiteResult_eq_error (h : finiteResult r = .error f) :
    ∃ cause : Error, f = .formula cause ∧ cause.isNumeric = true := by
  unfold finiteResult at h
  split at h
  · exact ⟨.nullResult, (Except.error.inj h).symm, rfl⟩
  · split at h
    · exact ⟨.undefinedResult, (Except.error.inj h).symm, rfl⟩
    · split at h
      · exact ⟨.infiniteResult, (Except.error.inj h).symm, rfl⟩
      · simp at h

/-- The value of a formula is neither not-a-number nor infinite. -/
theorem value_eq_ok (h : value limits room formula bindings = .ok x) :
    x.isNaN = false ∧ x.isInf = false := by
  simp only [value, bind_eq_ok] at h
  obtain ⟨t, -, r, -, h⟩ := h
  exact finiteResult_eq_ok h

/-- A formula has no value because it cannot be read, because a name in it gives no number, for a
numeric error, or because calls are nested too deeply. -/
theorem value_error (h : value limits room formula bindings = .error f) :
    (∃ cause, parse limits formula = .error cause ∧ f = .formula cause) ∨
      ∃ t, parse limits formula = .ok t ∧ StopsFor bindings t.names f := by
  simp only [value, bind_eq_error, mapError_eq_error, mapError_eq_ok] at h
  rcases h with ⟨cause, hparse, rfl⟩ | ⟨t, ht, h | ⟨r, -, h⟩⟩
  · exact .inl ⟨cause, hparse, rfl⟩
  · refine .inr ⟨t, ht, (stopsFor_of_eval bindings room t f h).mono ?_⟩
    intro name hname
    rwa [Tree.names, List.mem_eraseDups]
  · obtain ⟨cause, rfl, hcause⟩ := finiteResult_eq_error h
    exact .inr ⟨t, ht, .numeric hcause⟩

end

end Tariff.Formula
