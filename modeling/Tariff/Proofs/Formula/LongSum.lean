import Tariff.Proofs.Formula.Room
import Tariff.Proofs.Formula.Texts

/-!
# Long sums

A sum is read without being nested, however long it is: each number is added to the sum of those
before it. Its evaluation is as deep as the sum is long. So a long sum is read under every limit of
the depth, and is evaluated only if there is room for the calls.

## Main definitions

* `Tariff.Formula.sumOfOnes` — a sum of so many ones.

## Main results

* `Tariff.Formula.parse_sumOfOnes` — a sum of ones is read if it is not too long.
* `Tariff.Formula.value_sumOfOnes` — it has no value if there is too little room.
-/

set_option autoImplicit false

namespace Tariff.Formula

open Tariff.Text

/-- The characters of so many ones, each of them added to what comes before. -/
def addedOnes : Nat → List Char
  | 0 => []
  | n + 1 => '+' :: '1' :: addedOnes n

/-- A one, and so many more that are added to it. -/
def sumOfOnes (n : Nat) : String :=
  String.ofList ('1' :: addedOnes n)

/-- The lexemes of so many ones, each of them added to what comes before. -/
def addedLexemes : Nat → List Lexeme
  | 0 => []
  | n + 1 => .operator .add :: .number "1" :: addedLexemes n

/-- A phrase to which so many ones are added. -/
def sumPhrase (p : Phrase) : Nat → Phrase
  | 0 => p
  | n + 1 => sumPhrase (.binary .add p (.number "1")) n

/-- A tree to which so many ones are added. -/
def sumTree (t : Tree) : Nat → Tree
  | 0 => t
  | n + 1 => sumTree (.binary .add t (Descent.numberTree "1")) n

variable {n room : Nat} {limits : Limits} {p : Phrase} {t : Tree} {ls : List Lexeme}
  {bindings : Bindings}

/-! ### Reading -/

/-- A one by itself is a number. -/
lemma hasLexemes_one : HasLexemes ['1'] [.number "1"] :=
  .of_isSpelled (Lexeme.isSpelled_of_first? (rfl : Lexeme.first? ['1'] = some (.number "1")))

/-- Added ones follow after a separator. -/
lemma isSeparator_of_head?_addedOnes : ∀ c ∈ (addedOnes n).head?, isSeparator c = true := by
  cases n with
  | zero => exact nofun
  | succ n =>
    rintro _ ⟨⟩
    decide

/-- The characters of added ones have their lexemes. -/
lemma hasLexemes_addedOnes (n : Nat) : HasLexemes (addedOnes n) (addedLexemes n) := by
  induction n with
  | zero => exact .nil
  | succ n ih =>
    exact .mark rfl (fun _ => rfl) (.append isSeparator_of_head?_addedOnes hasLexemes_one ih)

/-- Ones may be added to a chain of sums. -/
lemma derives_sumPhrase (h : Derives (.chain .additive) ls p) :
    Derives (.chain .additive) (ls ++ addedLexemes n) (sumPhrase p n) := by
  induction n generalizing ls p with
  | zero => simpa [addedLexemes, sumPhrase] using h
  | succ n ih =>
    have hone : Derives (.chain .multiplicative) [.number "1"] (.number "1") :=
      (Derives.number "1").of_primary _
    simpa [addedLexemes, sumPhrase] using ih (.binary h rfl hone)

/-- The phrase of a sum stands for the tree of the sum. -/
lemma tree?_sumPhrase (h : p.tree? = some t) : (sumPhrase p n).tree? = some (sumTree t n) := by
  induction n generalizing p t with
  | zero => exact h
  | succ n ih => exact ih (by simp [Phrase.tree?, h])

/-- Added ones are not nested. -/
lemma depth_sumPhrase (h : p.depth = 1) : (sumPhrase p n).depth = 1 := by
  induction n generalizing p with
  | zero => exact h
  | succ n ih => exact ih (by simp [Phrase.depth, h])

/-- There is no blank in added ones. -/
lemma isBlank_of_mem_addedOnes {c : Char} (h : c ∈ addedOnes n) : isBlank c = false := by
  induction n with
  | zero => cases h
  | succ n ih =>
    simp only [addedOnes, List.mem_cons] at h
    rcases h with rfl | rfl | h
    · decide
    · decide
    · exact ih h

/-- Each added one takes two characters. -/
lemma length_addedOnes (n : Nat) : (addedOnes n).length = 2 * n := by
  induction n with
  | zero => rfl
  | succ n ih => simp [addedOnes, ih, Nat.mul_succ]

/-- The line of a sum is the sum. -/
lemma oneLineChars_sumOfOnes (n : Nat) : oneLineChars (sumOfOnes n) = '1' :: addedOnes n := by
  have hline : ∀ c ∈ (sumOfOnes n).toList, isBlank c = false := by
    intro c hc
    rw [sumOfOnes, String.toList_ofList, List.mem_cons] at hc
    rcases hc with rfl | hc
    · decide
    · exact isBlank_of_mem_addedOnes hc
  rw [oneLineChars_eq_toList hline, sumOfOnes, String.toList_ofList]

/-- **A sum of ones is read** if it is not too long, and if anything is read at all. -/
theorem parse_sumOfOnes (hdepth : 1 ≤ limits.depth)
    (hlength : ∀ limit, limits.length = some limit → (2 * n + 1 : Nat) ≤ limit) :
    parse limits (some (sumOfOnes n)) = .ok (sumTree (Descent.numberTree "1") n) := by
  have hlexemes : HasLexemes (oneLineChars (sumOfOnes n)) ([.number "1"] ++ addedLexemes n) := by
    rw [oneLineChars_sumOfOnes]
    exact .append isSeparator_of_head?_addedOnes hasLexemes_one (hasLexemes_addedOnes n)
  obtain ⟨ts, hts, htoks⟩ := hasLexemes_iff.1 hlexemes
  have hsum : Derives (.chain .additive) ([.number "1"] ++ addedLexemes n)
      (sumPhrase (.number "1") n) := derives_sumPhrase ((Derives.number "1").of_primary _)
  have htree : (sumPhrase (.number "1") n).tree? = some (sumTree (Descent.numberTree "1") n) :=
    tree?_sumPhrase rfl
  refine parse_eq_ok_iff_derives.2 ⟨?_, ?_, ts, sumPhrase (.number "1") n, hts, ?_, ?_, ?_, htree⟩
  · rw [isBlankText, sumOfOnes, String.toList_ofList]
    rfl
  · intro limit hlimit
    rw [oneLineChars_sumOfOnes, List.length_cons, length_addedOnes]
    exact hlength limit hlimit
  · rw [htoks]
    exact .plain (.single hsum)
  · exact (Phrase.isSome_tree?_iff _).1 (by rw [htree]; rfl)
  · rw [depth_sumPhrase rfl]
    exact hdepth

/-! ### Evaluation -/

/-- Each added one takes the calls to an operand. -/
lemma calls_sumTree : (sumTree t n).calls = callsToOperand * n + t.calls := by
  induction n generalizing t with
  | zero => simp [sumTree]
  | succ n ih =>
    rw [sumTree, ih, Tree.calls, Descent.numberTree, Tree.calls, Nat.max_zero, Nat.mul_succ]
    omega

/-- With room for its calls a sum has a number if its first part has. -/
lemma exists_eval_sumTree (h : ∃ room x, t.eval bindings room = .ok (some x)) :
    ∃ room x, (sumTree t n).eval bindings room = .ok (some x) := by
  induction n generalizing t with
  | zero => exact h
  | succ n ih =>
    obtain ⟨room, x, hx⟩ := h
    obtain ⟨y, hy⟩ : ∃ y, Descent.numberTree "1" = .number y := ⟨_, rfl⟩
    refine ih ⟨callsToOperand + room, Operator.add.eval x y, ?_⟩
    rw [hy, Tree.eval, inside_eq_ok_iff.2 ⟨by omega, rfl⟩, Nat.add_sub_cancel_left]
    simp only [bind, Except.bind, hx, needed, Tree.eval]

/-- **A long sum has no value**, because there is too little room for its calls. -/
theorem value_sumOfOnes (hdepth : 1 ≤ limits.depth)
    (hlength : ∀ limit, limits.length = some limit → (2 * n + 1 : Nat) ≤ limit)
    (hroom : room < callsToOperand * n) :
    value limits room (some (sumOfOnes n)) bindings = .error (.fault .callsExhausted) := by
  have hcalls : (sumTree (Descent.numberTree "1") n).calls = callsToOperand * n := calls_sumTree
  obtain ⟨enough, x, hx⟩ : ∃ enough x,
      (sumTree (Descent.numberTree "1") n).eval bindings enough = .ok (some x) :=
    exists_eval_sumTree ⟨0, _, rfl⟩
  rw [value_of_parse (parse_sumOfOnes hdepth hlength)]
  exact bind_eq_error.2 (.inl ((takesRoom_eval bindings _).eq_exhausted hx (by rwa [hcalls])))

end Tariff.Formula
