import Mathlib.Data.List.Chain
import Mathlib.Tactic.Common
import Tariff.Formula.Check
import Tariff.Proofs.Formula.Lexing

/-!
# The words of a text and the names among its tokens

A check looks for names in the words of a text, and the descent finds them among the tokens. The
two views agree on the names that are called. They agree on the other names too unless a number
runs into a name, which no derivable formula has: of two lexemes side by side in it, one is an
operator or a punctuation mark.

## Main definitions

* `Tariff.Formula.namesIn` — the names among some lexemes that are called, or those that are not.
* `Tariff.Formula.Apart` — of two lexemes side by side one is a mark.

## Main results

* `Tariff.Formula.Cut.filterMap_wordsFrom` — the names in the words are those among the tokens.
* `Tariff.Formula.calledNames_eq`, `Tariff.Formula.usedNames_eq` — the same for whole texts.
-/

set_option autoImplicit false

namespace Tariff.Formula

open Tariff.Text

/-! ### Characters of words -/

/-- The ASCII digits stand in a row. -/
lemma toNat_of_isAsciiDigit {c : Char} (h : c.isDigit = true) : 48 ≤ c.toNat ∧ c.toNat ≤ 57 := by
  have h : (decide (c.val ≥ 48) && decide (c.val ≤ 57)) = true := h
  simp only [Bool.and_eq_true, decide_eq_true_eq, ge_iff_le, UInt32.le_iff_toNat_le] at h
  exact h

/-- What may continue a name is an ASCII digit or may start one. -/
lemma isDigit_or_isNameStart {c : Char} (h : isNameChar c = true) :
    c.isDigit = true ∨ isNameStart c = true := by
  have h : ((c.isAlpha || c.isDigit) || c == '_') = true := h
  rw [Bool.or_eq_true, Bool.or_eq_true] at h
  rw [isNameStart, Bool.or_eq_true]
  rcases h with (h | h) | h
  · exact .inr (.inl h)
  · exact .inl h
  · exact .inr (.inr h)

/-- An ASCII digit does not start a name. -/
lemma isNameStart_eq_false_of_isDigit {c : Char} (h : c.isDigit = true) :
    isNameStart c = false := by
  by_contra hc
  have hdigit := toNat_of_isAsciiDigit h
  have hstart := toNat_of_isNameStart (by simpa using hc)
  omega

/-- A digit in a word is an ASCII digit. -/
lemma isDigit_of_isNameChar {c : Char} (hname : isNameChar c = true) (hdigit : isDigit c = true) :
    c.isDigit = true := by
  rcases isDigit_or_isNameStart hname with h | h
  · exact h
  · rw [isDigit_eq_false_of_isNameStart h] at hdigit
    simp at hdigit

/-- No blank is in a word. -/
lemma isNameChar_eq_false_of_isBlank {c : Char} (h : isBlank c = true) : isNameChar c = false := by
  simp only [isBlank, Bool.or_eq_true, Bool.and_eq_true, decide_eq_true_eq, beq_iff_eq] at h
  by_contra hc
  rcases isDigit_or_isNameStart (by simpa using hc) with hc | hc
  · have := toNat_of_isAsciiDigit hc
    omega
  · have := toNat_of_isNameStart hc
    omega

/-- No character of a mark is in a word. -/
lemma Lexeme.isNameChar_eq_false_of_isMark {l : Lexeme} (h : l.isMark = true) :
    ∀ c ∈ l.text.toList, isNameChar c = false := by
  cases l with
  | number | name => simp [isMark] at h
  | operator op => cases op <;> simp [text, Operator.symbol] <;> decide
  | _ => simp [text]; decide

/-- Only the opening parenthesis starts with one. -/
lemma Lexeme.head?_text_eq_openParen_iff {l : Lexeme} {cs : List Char} (h : first? cs = some l) :
    l.text.toList.head? = some '(' ↔ l = .openParen := by
  cases hmark : l.isMark with
  | false =>
    constructor
    · intro hhead
      exact absurd rfl (ne_paren_of_mem_text h hmark '(' (List.mem_of_mem_head? hhead)).1
    · rintro rfl
      simp [isMark] at hmark
  | true =>
    cases l with
    | number | name => simp [isMark] at hmark
    | operator op => cases op <;> simp [text, Operator.symbol]
    | _ => simp [text]

/-! ### Cutting a text into words -/

section Words

variable {before : Option Char} {run as cs : List Char}

/-- The characters of a name go on with a run. -/
lemma wordsFrom_append_of_isNameChar (h : ∀ c ∈ as, isNameChar c = true) (cs : List Char) :
    wordsFrom before run (as ++ cs) = wordsFrom before (as.reverse ++ run) cs := by
  induction as generalizing run with
  | nil => rfl
  | cons a as ih =>
    have ha := h a (by simp)
    rw [List.cons_append, wordsFrom, if_pos ha, ih fun c hc => h c (by simp [hc])]
    simp

/-- A run ends where no character of a name follows. -/
lemma wordsFrom_of_head? (h : ∀ c ∈ cs.head?, isNameChar c = false) (before' : Option Char) :
    wordsFrom before run cs = wordOf before run cs ++ wordsFrom before' [] cs := by
  cases cs with
  | nil => rw [wordsFrom, wordsFrom, wordOf, wordOf, List.isEmpty_nil, if_pos rfl, List.append_nil]
  | cons c cs =>
    have hc : isNameChar c = false := h c rfl
    rw [wordsFrom, wordsFrom, hc, if_neg (by simp), if_neg (by simp)]
    rfl

end Words

namespace Word

/-- The name that a word calls, or the name that it is without calling it. -/
def nameIf? : Bool → Word → Option String
  | true => calledName?
  | false => usedName?

variable {called : Bool} {before : Option Char} {run s after : List Char}

/-- A run of digits is no name. -/
lemma nameIf?_of_isDigit (h : ∀ c ∈ run, c.isDigit = true) :
    nameIf? called ⟨before, run, after⟩ = none := by
  cases called with
  | true =>
    have hnone : run.dropWhile Char.isDigit = [] := by
      rw [← List.append_nil run, List.dropWhile_append_of_pos h, List.dropWhile_nil]
    simp [nameIf?, calledName?, hnone]
  | false =>
    have hhead : run.head?.any isNameStart = false := by
      cases run with
      | nil => rfl
      | cons c run => exact isNameStart_eq_false_of_isDigit (h c (by simp))
    simp [nameIf?, usedName?, hhead]

/-- What a word yields: its name after any digits if that is called, and its name if it is not
called and neither digits nor a point come before it. -/
lemma nameIf?_append (hrun : ∀ c ∈ run, c.isDigit = true) (hs : s.head?.any isNameStart = true)
    (hfree : called = false → run = [] ∧ before ≠ some '.') :
    nameIf? called ⟨before, run ++ s, after⟩ =
      if ((after.dropWhile isBlank).head? == some '(') = called then some (String.ofList s)
      else none := by
  obtain ⟨c, s, rfl⟩ : ∃ c s', s = c :: s' := by
    cases s with
    | nil => simp at hs
    | cons c s => exact ⟨c, s, rfl⟩
  have hc : c.isDigit = false := by
    cases h : c.isDigit with
    | false => rfl
    | true =>
      rw [List.head?_cons, Option.any_some, isNameStart_eq_false_of_isDigit h] at hs
      simp at hs
  cases called with
  | true =>
    have hdrop : (run ++ c :: s).dropWhile Char.isDigit = c :: s := by
      rw [List.dropWhile_append_of_pos hrun, List.dropWhile_cons_of_neg (by simp [hc])]
    simp [nameIf?, calledName?, isCalled, hdrop]
  | false =>
    obtain ⟨rfl, hbefore⟩ := hfree rfl
    have hstart : isNameStart c = true := by simpa using hs
    cases hcall : (after.dropWhile isBlank).head? == some '(' <;>
      simp [nameIf?, usedName?, isCalled, hstart, hbefore, hcall]

end Word

section Names

variable {called : Bool} {before : Option Char} {run as cs : List Char}

/-- A run of digits yields no name. -/
lemma filterMap_wordOf_of_isDigit (h : ∀ c ∈ run, c.isDigit = true) :
    (wordOf before run cs).filterMap (Word.nameIf? called) = [] := by
  unfold wordOf
  split
  · rfl
  · rw [List.filterMap_cons_none (Word.nameIf?_of_isDigit (by simpa using h)), List.filterMap_nil]

/-- Characters that are in no word end a run of digits, which yields no name. -/
lemma filterMap_wordsFrom_append_gap (called : Bool) (before : Option Char) (run cs : List Char)
    (hne : as ≠ []) (has : ∀ c ∈ as, isNameChar c = false) (hrun : ∀ c ∈ run, c.isDigit = true) :
    ∃ c ∈ as, (wordsFrom before run (as ++ cs)).filterMap (Word.nameIf? called) =
      (wordsFrom (some c) [] cs).filterMap (Word.nameIf? called) := by
  induction as generalizing before run with
  | nil => exact absurd rfl hne
  | cons a as ih =>
    have ha : isNameChar a = false := has a (by simp)
    rw [List.cons_append, wordsFrom, if_neg (by simp [ha]), List.filterMap_append,
      filterMap_wordOf_of_isDigit hrun, List.nil_append]
    rcases as with _ | ⟨b, as⟩
    · exact ⟨a, by simp, rfl⟩
    · obtain ⟨c, hc, heq⟩ := ih (some a) [] (by simp)
        (fun c hc => has c (List.mem_cons_of_mem _ hc)) (by simp)
      exact ⟨c, List.mem_cons_of_mem _ hc, heq⟩

/-- Digits and points leave a run of digits and yield no name. -/
lemma filterMap_wordsFrom_append_number (called : Bool) (before : Option Char)
    (run cs : List Char) (has : ∀ c ∈ as, isDigit c = true ∨ c = '.')
    (hrun : ∀ c ∈ run, c.isDigit = true) :
    ∃ before' run', (∀ c ∈ run', c.isDigit = true) ∧
      (wordsFrom before run (as ++ cs)).filterMap (Word.nameIf? called) =
        (wordsFrom before' run' cs).filterMap (Word.nameIf? called) := by
  induction as generalizing before run with
  | nil => exact ⟨before, run, hrun, rfl⟩
  | cons a as ih =>
    have has' : ∀ c ∈ as, isDigit c = true ∨ c = '.' := fun c hc => has c (by simp [hc])
    rw [List.cons_append, wordsFrom]
    cases ha : isNameChar a with
    | true =>
      have hdigit : a.isDigit = true := by
        rcases has a (by simp) with h | rfl
        · exact isDigit_of_isNameChar ha h
        · exact absurd ha (by decide)
      rw [if_pos rfl]
      exact ih _ _ has' (by simpa [hdigit] using hrun)
    | false =>
      rw [if_neg (by simp), List.filterMap_append, filterMap_wordOf_of_isDigit hrun,
        List.nil_append]
      exact ih _ _ has' (by simp)

/-- A name ends a run of digits and yields itself, if it is called or not as it should be. -/
lemma filterMap_wordsFrom_append_name {s : String} {rest : List Char}
    (hstart : s.toList.head?.any isNameStart = true) (hs : ∀ c ∈ s.toList, isNameChar c = true)
    (hrest : ∀ c ∈ rest.head?, isNameChar c = false) (hrun : ∀ c ∈ run, c.isDigit = true)
    (hfree : called = false → run = [] ∧ before ≠ some '.') :
    (wordsFrom before run (s.toList ++ rest)).filterMap (Word.nameIf? called) =
      (if ((rest.dropWhile isBlank).head? == some '(') = called then [s] else []) ++
        (wordsFrom none [] rest).filterMap (Word.nameIf? called) := by
  have hword : Word.nameIf? called ⟨before, (s.toList.reverse ++ run).reverse, rest⟩ =
      if ((rest.dropWhile isBlank).head? == some '(') = called then some s else none := by
    rw [List.reverse_append, List.reverse_reverse, Word.nameIf?_append (by simpa using hrun) hstart,
      String.ofList_toList]
    intro hc
    obtain ⟨rfl, hbefore⟩ := hfree hc
    exact ⟨rfl, hbefore⟩
  have hne : (s.toList.reverse ++ run).isEmpty = false := by
    cases h : s.toList with
    | nil => simp [h] at hstart
    | cons c cs => simp
  rw [wordsFrom_append_of_isNameChar hs, wordsFrom_of_head? hrest none, List.filterMap_append,
    wordOf, hne, if_neg (by simp), List.filterMap_cons, hword, List.filterMap_nil]
  by_cases hcall : ((rest.dropWhile isBlank).head? == some '(') = called
  · rw [if_pos hcall, if_pos hcall]
  · rw [if_neg hcall, if_neg hcall]

end Names

/-! ### Names among the tokens -/

/-- The names among some lexemes that are called, or those that are not. -/
def namesIn (called : Bool) : List Lexeme → List String
  | [] => []
  | .name s :: rest =>
    if (rest.head? == some .openParen) = called then s :: namesIn called rest
    else namesIn called rest
  | _ :: rest => namesIn called rest

/-- Of two lexemes side by side one is an operator or a punctuation mark. -/
def Apart (ls : List Lexeme) : Prop :=
  ls.IsChain fun l m => l.isMark = true ∨ m.isMark = true

/-- What follows the first lexeme is apart if all is. -/
lemma Apart.tail {l : Lexeme} {ls : List Lexeme} (h : Apart (l :: ls)) : Apart ls :=
  List.IsChain.tail h

/-- No name follows a number in a sequence that is apart. -/
lemma Apart.head?_ne_name {digits s : String} {ls : List Lexeme}
    (h : Apart (.number digits :: ls)) : ls.head? ≠ some (.name s) := by
  rcases ls with _ | ⟨m, ls⟩
  · simp
  · rintro hm
    obtain rfl : m = .name s := by simpa using hm
    have hmark := (List.isChain_cons_cons.1 h).1
    simp [Lexeme.isMark] at hmark

namespace Cut

variable {p : Nat} {cs : List Char} {ts : List Token}

/-- An opening parenthesis follows, after any blanks, iff it is the next token. -/
lemma head?_dropWhile_eq_openParen (h : Cut p cs ts) :
    ((cs.dropWhile isBlank).head? == some '(') =
      ((ts.map Token.lexeme).head? == some .openParen) := by
  induction h with
  | nil => rfl
  | blank hblank _ ih => rw [List.dropWhile_cons_of_pos hblank, ih]
  | @token _ l rest _ hblank hl _ _ =>
    obtain ⟨c, as, htext⟩ : ∃ c as, l.text.toList = c :: as := by
      refine List.exists_cons_of_length_pos (Nat.pos_of_ne_zero ?_)
      rw [String.length_toList]
      exact Lexeme.text_ne_empty_of_first? hl
    have hc : isBlank c = false := hblank c (by simp [htext])
    have hparen := Lexeme.head?_text_eq_openParen_iff hl
    rw [htext, List.head?_cons, Option.some.injEq] at hparen
    rw [htext, List.cons_append, List.dropWhile_cons_of_neg (by simp [hc])]
    rw [Bool.eq_iff_iff, beq_iff_eq, beq_iff_eq, List.map_cons, List.head?_cons, List.head?_cons,
      Option.some.injEq, Option.some.injEq]
    exact hparen

/-- The names in the words of a text are those among its tokens. A run of digits may go before, and
for names that are not called no number may run into a name.

**Proof sketch.** Induction on the tokens. Blanks and marks end the run of digits, numbers leave
such a run again, and a name ends it with a word that yields the name. -/
theorem filterMap_wordsFrom (h : Cut p cs ts) (called : Bool) (before : Option Char)
    (run : List Char) (hrun : ∀ c ∈ run, c.isDigit = true)
    (hfree : called = false → ∀ s, (ts.map Token.lexeme).head? = some (.name s) →
      run = [] ∧ before ≠ some '.')
    (hapart : called = false → Apart (ts.map Token.lexeme)) :
    (wordsFrom before run cs).filterMap (Word.nameIf? called) =
      namesIn called (ts.map Token.lexeme) := by
  induction h generalizing before run with
  | nil => exact filterMap_wordOf_of_isDigit hrun
  | @blank p c cs ts hblank _ ih =>
    obtain ⟨c', hc', heq⟩ := filterMap_wordsFrom_append_gap called before run cs
      (List.cons_ne_nil c []) (by simpa using isNameChar_eq_false_of_isBlank hblank) hrun
    obtain rfl : c' = c := by simpa using hc'
    rw [List.singleton_append] at heq
    rw [heq]
    refine ih _ _ (by simp) (fun _ _ _ => ⟨rfl, ?_⟩) hapart
    rintro ⟨⟩
    exact absurd hblank (by decide)
  | @token p l rest ts _ hl hcut ih =>
    have htail : called = false → Apart (ts.map Token.lexeme) := fun hc => (hapart hc).tail
    rw [List.map_cons]
    cases hmark : l.isMark with
    | true =>
      have hgap := Lexeme.isNameChar_eq_false_of_isMark hmark
      have hne : l.text.toList ≠ [] := by
        have := Lexeme.text_ne_empty_of_first? hl
        intro hnil
        rw [← String.length_toList, hnil] at this
        exact this rfl
      obtain ⟨c, hc, heq⟩ := filterMap_wordsFrom_append_gap called before run rest hne hgap hrun
      rw [heq, ih _ _ (by simp) (fun _ _ _ => ⟨rfl, ?_⟩) htail]
      · cases l <;> first | rfl | simp [Lexeme.isMark] at hmark
      · rintro ⟨⟩
        cases l with
        | operator op => cases op <;> simp [Lexeme.text, Operator.symbol] at hc
        | number | name => simp [Lexeme.isMark] at hmark
        | _ => simp [Lexeme.text] at hc
    | false =>
      cases l with
      | number digits =>
        obtain ⟨-, hdigits, -⟩ := firstNumber?_eq_some (Lexeme.firstNumber?_of_first? hl)
        obtain ⟨before', run', hrun', heq⟩ := filterMap_wordsFrom_append_number called before
          run rest hdigits hrun
        rw [Lexeme.text, heq, namesIn]
        · -- no name follows the number, so it does not matter which run it leaves
          exact ih _ _ hrun' (fun hc s hs => absurd hs (hapart hc).head?_ne_name) htail
        · simp
      | name s =>
        obtain ⟨hstart, hs, hrest⟩ := Lexeme.isNameStart_of_first? hl
        refine (filterMap_wordsFrom_append_name (s := s) hstart hs hrest hrun
          fun hc => hfree hc s rfl).trans ?_
        rw [hcut.head?_dropWhile_eq_openParen, ih _ _ (by simp) (by simp) htail, namesIn]
        split <;> rfl
      | _ => simp [Lexeme.isMark] at hmark

end Cut

section Texts

variable {cs : List Char} {ts : List Token} (h : tokens cs = .ok ts)

include h

/-- The names that a text calls are those that its tokens call. -/
theorem calledNames_eq : calledNames cs = (namesIn true (ts.map Token.lexeme)).eraseDups := by
  have hwords := (cut_of_tokens h).filterMap_wordsFrom true none [] (by simp) (by simp) (by simp)
  rw [← hwords]
  rfl

/-- The names that a text uses otherwise are those among its tokens, if these are apart. -/
theorem usedNames_eq (hapart : Apart (ts.map Token.lexeme)) :
    usedNames cs =
      ((namesIn false (ts.map Token.lexeme)).filter fun s => !isLiteralName s).eraseDups := by
  have hwords := (cut_of_tokens h).filterMap_wordsFrom false none [] (by simp) (by simp)
    fun _ => hapart
  rw [← hwords]
  rfl

end Texts

-- A name that a number runs into is a token, but no word of its own.
example : usedNames "2x+y".toList = ["y"] := by decide

end Tariff.Formula
