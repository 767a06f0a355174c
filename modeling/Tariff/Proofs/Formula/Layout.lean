import Mathlib.Data.List.DropRight
import Tariff.Formula.Parser
import Tariff.Proofs.Formula.Lexing

/-!
# Laying out a formula twice

A formula that has been laid out on one line is not changed by a second layout, so it makes no
difference whether a formula or its line is read.

## Main results

* `Tariff.Formula.eq_append_trimBlanks` — what is trimmed off a text is blank.
* `Tariff.Formula.oneLineChars_oneLine` — a line is laid out as itself.
* `Tariff.Formula.oneLineChars_eq_toList` — a formula without blanks is a line.
* `Tariff.Formula.isBlankText_oneLine` — a line is blank iff the formula is.
* `Tariff.Formula.parse_oneLine` — a line is read as the formula is.
-/

set_option autoImplicit false

namespace Tariff.Formula

open Tariff.Text

/-! ### Trimming -/

/-- A trimmed text does not start with a blank. -/
lemma dropWhile_trimBlanks (cs : List Char) :
    (trimBlanks cs).dropWhile isBlank = trimBlanks cs := by
  have hprefix : trimBlanks cs <+: cs.dropWhile isBlank :=
    List.rdropWhile_prefix isBlank (cs.dropWhile isBlank)
  cases htrim : trimBlanks cs with
  | nil => rfl
  | cons c rest =>
    obtain ⟨tail, htail⟩ := hprefix
    rw [htrim, List.cons_append] at htail
    have hhead : c ∈ (cs.dropWhile isBlank).head? := by simp [← htail]
    have hc : isBlank c = false := head?_dropWhile hhead
    rw [List.dropWhile_cons_of_neg (by simp [hc])]

/-- Trimming a trimmed text changes nothing. -/
lemma trimBlanks_trimBlanks (cs : List Char) : trimBlanks (trimBlanks cs) = trimBlanks cs := by
  rw [trimBlanks, dropWhile_trimBlanks]
  exact List.rdropWhile_idempotent isBlank (cs.dropWhile isBlank)

/-- What is trimmed off a text is blank. -/
lemma eq_append_trimBlanks (cs : List Char) : ∃ front back : List Char,
    front.all isBlank = true ∧ back.all isBlank = true ∧ cs = front ++ (trimBlanks cs ++ back) := by
  let rest := (cs.dropWhile isBlank).reverse
  refine ⟨cs.takeWhile isBlank, (rest.takeWhile isBlank).reverse, List.all_takeWhile, ?_, ?_⟩
  · rw [List.all_reverse]
    exact List.all_takeWhile
  · rw [trimBlanks, ← List.reverse_append, List.takeWhile_append_dropWhile, List.reverse_reverse,
      List.takeWhile_append_dropWhile]

/-- A trimmed text is blank iff the text is. -/
lemma all_trimBlanks (cs : List Char) : (trimBlanks cs).all isBlank = cs.all isBlank := by
  obtain ⟨front, back, hfront, hback, hcs⟩ := eq_append_trimBlanks cs
  conv_rhs => rw [hcs]
  rw [List.all_append, List.all_append, hfront, hback, Bool.true_and, Bool.and_true]

/-! ### Joining lines -/

/-- Line breaks are blanks. -/
lemma isBlank_of_isLineBreak {c : Char} (h : isLineBreak c = true) : isBlank c = true := by
  simp only [isLineBreak, Bool.or_eq_true, beq_iff_eq] at h
  rcases h with rfl | rfl <;> decide

/-- A joined run of blanks holds no line break. -/
lemma any_isLineBreak_joinedRun (run : List Char) : (joinedRun run).any isLineBreak = false := by
  unfold joinedRun
  split
  · decide
  · next h => simpa using h

/-- A joined run of blanks is blank. -/
lemma all_isBlank_joinedRun {run : List Char} (h : run.all isBlank = true) :
    (joinedRun run).all isBlank = true := by
  unfold joinedRun
  split
  · decide
  · exact h

/-- Joined lines hold no line break. -/
lemma any_isLineBreak_joinLinesAfter (cs run : List Char) :
    (joinLinesAfter run cs).any isLineBreak = false := by
  induction cs generalizing run with
  | nil => exact any_isLineBreak_joinedRun _
  | cons c cs ih =>
    unfold joinLinesAfter
    split
    · exact ih _
    · next hc =>
      have hbreak : isLineBreak c = false := by
        cases h : isLineBreak c with
        | true => exact absurd (isBlank_of_isLineBreak h) hc
        | false => rfl
      rw [List.any_append, List.any_cons, any_isLineBreak_joinedRun, hbreak, ih]
      rfl

/-- A text without line breaks has no lines to join. -/
lemma joinLinesAfter_eq_self (cs run : List Char) (hrun : run.any isLineBreak = false)
    (hcs : cs.any isLineBreak = false) : joinLinesAfter run cs = run.reverse ++ cs := by
  have hjoined : ∀ run : List Char, run.any isLineBreak = false →
      joinedRun run.reverse = run.reverse := by
    intro run h
    rw [joinedRun, List.any_reverse, h]
    rfl
  induction cs generalizing run with
  | nil => rw [joinLinesAfter, hjoined run hrun, List.append_nil]
  | cons c cs ih =>
    rw [List.any_cons, Bool.or_eq_false_iff] at hcs
    unfold joinLinesAfter
    split
    · rw [ih (c :: run) (by rw [List.any_cons, hcs.1, hrun]; rfl) hcs.2]
      simp
    · rw [ih [] rfl hcs.2, hjoined run hrun]
      rfl

/-- Joined lines are blank iff the lines are. -/
lemma all_joinLinesAfter (cs run : List Char) (hrun : run.all isBlank = true) :
    (joinLinesAfter run cs).all isBlank = cs.all isBlank := by
  have hjoined : (joinedRun run.reverse).all isBlank = true :=
    all_isBlank_joinedRun (by rwa [List.all_reverse])
  induction cs generalizing run with
  | nil => exact hjoined
  | cons c cs ih =>
    unfold joinLinesAfter
    split
    · next hc =>
      have hrun' : (c :: run).all isBlank = true := by rw [List.all_cons, hc, hrun]; rfl
      rw [ih (c :: run) hrun' (all_isBlank_joinedRun (by rwa [List.all_reverse])), List.all_cons,
        hc, Bool.true_and]
    · rw [List.all_append, hjoined, List.all_cons, ih [] rfl rfl, List.all_cons, Bool.true_and]

/-! ### Layouts -/

/-- A line holds no line break. -/
lemma any_isLineBreak_oneLineChars (formula : String) :
    (oneLineChars formula).any isLineBreak = false := by
  have hjoin := any_isLineBreak_joinLinesAfter formula.toList []
  rw [List.any_eq_false] at hjoin ⊢
  intro c hc
  have hfront : c ∈ (joinLines formula.toList).dropWhile isBlank :=
    (List.rdropWhile_prefix isBlank _).subset hc
  exact hjoin c ((List.dropWhile_suffix isBlank).subset hfront)

/-- A line is laid out as itself. -/
theorem oneLineChars_oneLine (formula : String) :
    oneLineChars (oneLine formula) = oneLineChars formula := by
  have hjoin : joinLines (oneLineChars formula) = oneLineChars formula :=
    joinLinesAfter_eq_self _ [] rfl (any_isLineBreak_oneLineChars formula)
  calc
    oneLineChars (oneLine formula) = trimBlanks (joinLines (oneLineChars formula)) := by
      rw [oneLineChars, oneLine, String.toList_ofList]
    _ = trimBlanks (oneLineChars formula) := by rw [hjoin]
    _ = oneLineChars formula := trimBlanks_trimBlanks _

/-- A formula without blanks is a line. -/
lemma oneLineChars_eq_toList {formula : String}
    (h : ∀ c ∈ formula.toList, isBlank c = false) : oneLineChars formula = formula.toList := by
  have hbreaks : formula.toList.any isLineBreak = false := by
    rw [List.any_eq_false]
    intro c hc hbreak
    simpa [h c hc] using isBlank_of_isLineBreak hbreak
  have hdrop : ∀ cs : List Char, (∀ c ∈ cs, isBlank c = false) → cs.dropWhile isBlank = cs := by
    intro cs hcs
    cases cs with
    | nil => rfl
    | cons c cs => rw [List.dropWhile_cons_of_neg (by simp [hcs c List.mem_cons_self])]
  rw [oneLineChars, joinLines, joinLinesAfter_eq_self _ [] rfl hbreaks, List.reverse_nil,
    List.nil_append, trimBlanks, hdrop _ h, hdrop _ (by simpa using h), List.reverse_reverse]

/-- A line is blank iff the formula is. -/
theorem isBlankText_oneLine (formula : String) :
    isBlankText (oneLine formula) = isBlankText formula := by
  rw [isBlankText, oneLine, String.toList_ofList, oneLineChars, all_trimBlanks]
  exact all_joinLinesAfter _ [] rfl

/-- A line is read as the formula is. -/
theorem parse_oneLine (limits : Limits) (formula : String) :
    parse limits (some (oneLine formula)) = parse limits (some formula) := by
  simp only [parse, isBlankText_oneLine, oneLineChars_oneLine]

end Tariff.Formula
