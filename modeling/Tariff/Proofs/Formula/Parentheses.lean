import Mathlib.Data.List.Infix
import Mathlib.Tactic.Lemma
import Tariff.Formula.Layout

/-!
# Balanced parentheses

The parentheses of a text are counted in one pass, before anything else about a formula is looked
at. The count goes through iff the parentheses are a word of the language of balanced parentheses,
which is built from nothing by putting words in parentheses and next to each other. It tells the two
ways in which they fail apart: some front of the text closes more than it opens, or none does.

## Main definitions

* `Tariff.Formula.IsBalanced` — the balanced words.
* `Tariff.Formula.parentheses` — the parentheses of a text, without all other characters.

## Main results

* `Tariff.Formula.IsBalanced.insert` — a pair may be put into a balanced word anywhere.
* `Tariff.Formula.imbalance?_decides` — what the count says about a text.
-/

set_option autoImplicit false

namespace Tariff.Formula

/-- The balanced words: nothing, a balanced word in parentheses, and two of them in a row. -/
inductive IsBalanced : List Char → Prop where
  /-- nothing is balanced -/
  | nil : IsBalanced []
  /-- a balanced word in parentheses -/
  | nested {ws : List Char} : IsBalanced ws → IsBalanced ('(' :: (ws ++ [')']))
  /-- two balanced words in a row -/
  | append {vs ws : List Char} : IsBalanced vs → IsBalanced ws → IsBalanced (vs ++ ws)

/-- The parentheses of a text, without all other characters. -/
def parentheses (cs : List Char) : List Char :=
  cs.filter fun c => c == '(' || c == ')'

variable {cs us vs ws : List Char} {n : Nat}

/-! ### Balanced words -/

/-- **A pair may be put into a balanced word anywhere.**

**Proof sketch.** Induction on the word. The place is before, in or after the parentheses of a
nested word; in two words in a row it is in one of them. -/
lemma IsBalanced.insert (h : IsBalanced (us ++ vs)) : IsBalanced (us ++ '(' :: ')' :: vs) := by
  have hpair : IsBalanced ['(', ')'] := IsBalanced.nil.nested
  generalize hword : us ++ vs = word at h
  induction h generalizing us vs with
  | nil =>
    obtain ⟨rfl, rfl⟩ := List.append_eq_nil_iff.1 hword
    exact hpair
  | @nested ws hws ih =>
    rcases List.append_eq_cons_iff.1 hword with ⟨rfl, rfl⟩ | ⟨us, rfl, hrest⟩
    · exact hpair.append hws.nested
    rcases List.append_eq_append_iff.1 hrest with ⟨after, rfl, hclose⟩ | ⟨vs, rfl, rfl⟩
    · -- the place is on one of the two sides of the closing parenthesis
      rcases List.singleton_eq_append_iff.1 hclose with ⟨rfl, rfl⟩ | ⟨rfl, rfl⟩
      · simpa using (ih (List.append_nil ws)).nested
      · simpa using hws.nested.append hpair
    · simpa using (ih rfl).nested
  | @append as bs has hbs iha ihb =>
    rcases List.append_eq_append_iff.1 hword with ⟨vs, rfl, rfl⟩ | ⟨us, rfl, rfl⟩
    · simpa using (iha rfl).append hbs
    · simpa using has.append (ihb rfl)

/-! ### Counting -/

/-- The count does not look at other characters than parentheses. -/
lemma imbalanceAfter_parentheses (cs : List Char) (n : Nat) :
    imbalanceAfter n (parentheses cs) = imbalanceAfter n cs := by
  induction cs generalizing n with
  | nil => rfl
  | cons c cs ih =>
    rw [parentheses] at ih ⊢
    by_cases hopen : c = '('
    · subst hopen
      exact ih (n + 1)
    by_cases hclose : c = ')'
    · subst hclose
      cases n with
      | zero => rfl
      | succ n => exact ih n
    · have hother : (c == '(' || c == ')') = false := by simp [hopen, hclose]
      rw [List.filter_cons_of_neg (by simp [hother]), ih]
      simp [imbalanceAfter, hopen, hclose]

/-- A balanced word leaves every count as it was. -/
lemma IsBalanced.imbalanceAfter_append (h : IsBalanced ws) (rest : List Char) (n : Nat) :
    imbalanceAfter n (ws ++ rest) = imbalanceAfter n rest := by
  induction h generalizing rest n with
  | nil => rfl
  | nested _ ih =>
    rw [List.cons_append, List.append_assoc]
    exact ih _ (n + 1)
  | append _ _ ihv ihw => rw [List.append_assoc, ihv, ihw]

/-- Parentheses that are counted to the end make a balanced word, with those before them that are
still open.

**Proof sketch.** Induction on the parentheses. The last one that is open and the next one that is
closed are a pair, which is put into a word that is balanced without it. -/
lemma isBalanced_of_imbalanceAfter (hws : ∀ c ∈ ws, c = '(' ∨ c = ')')
    (h : imbalanceAfter n ws = none) : IsBalanced (List.replicate n '(' ++ ws) := by
  induction ws generalizing n with
  | nil =>
    have hzero : n = 0 := by
      simpa [imbalanceAfter] using h
    subst hzero
    exact .nil
  | cons c ws ih =>
    obtain ⟨hc, hrest⟩ := List.forall_mem_cons.1 hws
    rcases hc with rfl | rfl
    · have hword := ih hrest (show imbalanceAfter (n + 1) ws = none from h)
      rwa [List.replicate_succ', List.append_assoc, List.singleton_append] at hword
    · cases n with
      | zero => exact absurd h nofun
      | succ n =>
        have hword := (ih hrest (show imbalanceAfter n ws = none from h)).insert
        rwa [List.replicate_succ', List.append_assoc, List.singleton_append]

/-- The count goes through iff the parentheses are balanced. -/
lemma imbalance?_eq_none_iff : imbalance? cs = none ↔ IsBalanced (parentheses cs) := by
  rw [imbalance?, ← imbalanceAfter_parentheses]
  constructor
  · refine fun h => isBalanced_of_imbalanceAfter (n := 0) (fun c hc => ?_) h
    simpa using (List.mem_filter.1 hc).2
  · intro h
    have hcount := h.imbalanceAfter_append [] 0
    rwa [List.append_nil] at hcount

/-- The count fails at a closing parenthesis iff some front of the text closes more than it opens,
with what was open before. -/
lemma imbalanceAfter_eq_unopened_iff : imbalanceAfter n cs = some .unopened ↔
    ∃ front, front <+: cs ∧ n + front.count '(' < front.count ')' := by
  induction cs generalizing n with
  | nil =>
    simp only [imbalanceAfter, List.prefix_nil, exists_eq_left, List.count_nil]
    split <;> simp
  | cons c cs ih =>
    have hfronts : (∃ front, front <+: c :: cs ∧ n + front.count '(' < front.count ')') ↔
        ∃ front, front <+: cs ∧ n + (c :: front).count '(' < (c :: front).count ')' := by
      constructor
      · rintro ⟨front, hfront, hcount⟩
        rcases List.prefix_cons_iff.1 hfront with rfl | ⟨rest, rfl, hrest⟩
        · simp at hcount
        · exact ⟨rest, hrest, hcount⟩
      · rintro ⟨front, hfront, hcount⟩
        exact ⟨c :: front, List.cons_prefix_cons.2 ⟨rfl, hfront⟩, hcount⟩
    rw [hfronts]
    by_cases hopen : c = '('
    · subst hopen
      have hmore : imbalanceAfter n ('(' :: cs) = imbalanceAfter (n + 1) cs := rfl
      rw [hmore, ih]
      simp [Nat.add_assoc, Nat.add_comm 1]
    by_cases hclose : c = ')'
    · subst hclose
      cases n with
      | zero =>
        refine iff_of_true rfl ⟨[], List.nil_prefix, ?_⟩
        simp
      | succ n =>
        have hless : imbalanceAfter (n + 1) (')' :: cs) = imbalanceAfter n cs := rfl
        rw [hless, ih]
        simp [Nat.add_right_comm]
    · have hother : imbalanceAfter n (c :: cs) = imbalanceAfter n cs := by
        simp [imbalanceAfter, hopen, hclose]
      rw [hother, ih]
      simp [List.count_cons_of_ne hopen, List.count_cons_of_ne hclose]

/-- **What the count says about a text.** It says nothing iff the parentheses of the text are
balanced. It says that one is closed without having been opened iff some front of the text closes
more than it opens, and otherwise that one is not closed. -/
theorem imbalance?_decides (cs : List Char) :
    ((imbalance? cs).map Imbalance.message = none ↔ IsBalanced (parentheses cs)) ∧
    ((imbalance? cs).map Imbalance.message = some "Closing parenthesis without opening" ↔
      ∃ front, front <+: cs ∧ front.count '(' < front.count ')') ∧
    ((imbalance? cs).map Imbalance.message = some "Unclosed parenthesis" ↔
      ¬ IsBalanced (parentheses cs) ∧
        ¬ ∃ front, front <+: cs ∧ front.count '(' < front.count ')') := by
  have hunopened : imbalance? cs = some .unopened ↔
      ∃ front, front <+: cs ∧ front.count '(' < front.count ')' := by
    simpa [imbalance?] using imbalanceAfter_eq_unopened_iff (n := 0)
  rw [← imbalance?_eq_none_iff, ← hunopened]
  cases imbalance? cs with
  | none => simp
  | some cause => cases cause <;> simp [Imbalance.message]

end Tariff.Formula
