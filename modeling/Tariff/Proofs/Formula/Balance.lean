import Tariff.Proofs.Formula.Grammar
import Tariff.Proofs.Formula.Lexing

/-!
# Derivable formulas are balanced

The parentheses of a text are counted before it is cut into tokens. No other lexeme has a
parenthesis in it, so the count is the same over the tokens; and over a derivable sequence each
opening parenthesis is closed.

## Main definitions

* `Tariff.Formula.Lexeme.parentheses` — the parenthesis that a lexeme is, if it is one.
* `Tariff.Formula.Balanced` — a sequence of lexemes leaves every count as it was.

## Main results

* `Tariff.Formula.Cut.imbalanceAfter_eq` — counting over the text is counting over its tokens.
* `Tariff.Formula.Derives.balanced` — a derived sequence leaves every count as it was.
* `Tariff.Formula.imbalance?_eq_none_of_derives` — a derivable text passes the count.
-/

set_option autoImplicit false

namespace Tariff.Formula

open Tariff.Text

/-! ### Counting over the characters of a text -/

/-- The count after a text depends on what follows by its own counts only. -/
lemma imbalanceAfter_append_congr {bs cs : List Char}
    (h : ∀ n, imbalanceAfter n bs = imbalanceAfter n cs) (as : List Char) (n : Nat) :
    imbalanceAfter n (as ++ bs) = imbalanceAfter n (as ++ cs) := by
  induction as generalizing n with
  | nil => exact h n
  | cons a as ih =>
    simp only [List.cons_append, imbalanceAfter, ih]

/-- Characters other than parentheses do not count. -/
lemma imbalanceAfter_append_of_ne {as : List Char} (h : ∀ c ∈ as, c ≠ '(' ∧ c ≠ ')')
    (cs : List Char) (n : Nat) : imbalanceAfter n (as ++ cs) = imbalanceAfter n cs := by
  induction as with
  | nil => rfl
  | cons a as ih =>
    have ha := h a (by simp)
    simp [imbalanceAfter, ha.1, ha.2, ih fun c hc => h c (by simp [hc])]

/-! ### Counting over tokens -/

/-- The parenthesis that a lexeme is, if it is one. -/
def Lexeme.parentheses : Lexeme → List Char
  | .openParen => ['(']
  | .closeParen => [')']
  | _ => []

/-- The parentheses in a lexeme that is found are those that it is. -/
lemma Lexeme.imbalanceAfter_text {l : Lexeme} {cs : List Char} (h : Lexeme.first? cs = some l)
    (rest : List Char) (n : Nat) :
    imbalanceAfter n (l.text.toList ++ rest) = imbalanceAfter n (l.parentheses ++ rest) := by
  cases l with
  | number | name => exact imbalanceAfter_append_of_ne (ne_paren_of_mem_text h rfl) _ _
  | operator op =>
    cases op <;> exact imbalanceAfter_append_of_ne (by simp [text, Operator.symbol]) _ _
  | openParen | closeParen => rfl
  | comma | question | colon => exact imbalanceAfter_append_of_ne (by simp [text]) _ _

/-- Counting over a text is counting over its tokens. -/
theorem Cut.imbalanceAfter_eq {p : Nat} {cs : List Char} {ts : List Token} (h : Cut p cs ts)
    (n : Nat) : imbalanceAfter n cs =
      imbalanceAfter n ((ts.map Token.lexeme).flatMap Lexeme.parentheses) := by
  induction h generalizing n with
  | nil => rfl
  | @blank p c cs ts hblank _ ih =>
    have hc : c ≠ '(' ∧ c ≠ ')' := by
      constructor <;> rintro rfl <;> exact absurd hblank (by decide)
    have hskip : ∀ x ∈ [c], x ≠ '(' ∧ x ≠ ')' := by simpa using hc
    rw [← ih]
    exact imbalanceAfter_append_of_ne hskip cs n
  | token _ hl _ ih =>
    rw [Lexeme.imbalanceAfter_text hl, List.map_cons, List.flatMap_cons]
    exact imbalanceAfter_append_congr ih _ n

/-! ### Counting over a derivation -/

/-- Whether a sequence of lexemes leaves every count as it was. -/
def Balanced (ls : List Lexeme) : Prop :=
  ∀ n rest, imbalanceAfter n (ls.flatMap Lexeme.parentheses ++ rest) = imbalanceAfter n rest

/-- A sequence that leaves every count as it was still does so in parentheses. -/
lemma Balanced.group {ls : List Lexeme} (h : Balanced ls) :
    Balanced (.openParen :: (ls ++ [.closeParen])) := by
  intro n rest
  simp [Lexeme.parentheses, imbalanceAfter, h (n + 1)]

/-- Two sequences that leave every count as it was still do so with a lexeme between them that is no
parenthesis. -/
lemma Balanced.append {as bs : List Lexeme} {m : Lexeme} (hm : m.parentheses = [])
    (has : Balanced as) (hbs : Balanced bs) : Balanced (as ++ m :: bs) := by
  intro n rest
  rw [List.flatMap_append, List.flatMap_cons, hm, List.nil_append, List.append_assoc, has, hbs]

/-- A derived sequence leaves every count as it was. -/
theorem Derives.balanced {sym : Symbol} {ls : List Lexeme} {p : Phrase} (h : Derives sym ls p) :
    Balanced ls := by
  induction h with
  | plain _ ih | single _ ih | unsigned _ ih | base _ ih => exact ih
  | number | word => exact fun n rest => rfl
  | signed _ _ ih => exact fun n rest => by simp [Lexeme.parentheses, ih n]
  | binary _ _ _ ihl ihr | power _ _ ihl ihr => exact ihl.append rfl ihr
  | choice _ _ _ ihc iha ihb => exact ihc.append rfl (iha.append rfl ihb)
  | group _ ih => exact ih.group
  | @call name args _ ih =>
    have hargs : Balanced (separated (args.map (·.1))) :=
      separated_induction (fun n rest => rfl) (fun as bs => Balanced.append rfl) (by simpa using ih)
    exact fun n rest => by simpa [Lexeme.parentheses] using hargs.group n rest

/-- A derivable text passes the count of its parentheses. -/
theorem imbalance?_eq_none_of_derives {cs : List Char} {ts : List Token} {p : Phrase}
    (hts : tokens cs = .ok ts) (h : Derives .conditional (ts.map Token.lexeme) p) :
    imbalance? cs = none := by
  have hcount := h.balanced 0 []
  rw [List.append_nil] at hcount
  rw [imbalance?, (cut_of_tokens hts).imbalanceAfter_eq, hcount]
  rfl

end Tariff.Formula
