import Tariff.Proofs.Formula.Checking
import Tariff.Proofs.Formula.Spelling

/-!
# Divisors that are written as zero

A check warns of a division by a number that is written as zero. It looks for such divisors in the
text of a formula, not among its tokens. In a formula that can be read and has ASCII digits only it
finds each division sign that comes directly before a number without digits other than zero, if the
number starts with a digit. A number of zeros that starts with its point is passed over.

## Main definitions

* `Tariff.Formula.HasAsciiDigits` — a text has no digits of other scripts.
* `Tariff.Formula.HasOnlyZeros` — a numeral has no digits other than zero.
* `Tariff.Formula.DividesBy` — a number comes directly after a division sign.

## Main results

* `Tariff.Formula.startsWithZero_iff` — the texts that start with a zero are those whose first
  lexeme is a number of zeros.
* `Tariff.Formula.Cut.dividesByZero_iff` — the division signs before such a number, in the text and
  among the tokens.
* `Tariff.Formula.zeroDivisor_mem_warnings_iff` — when a check warns of a formula that can be read.
-/

set_option autoImplicit false

namespace Tariff.Formula

open Tariff.Text

variable {c : Char} {cs as bs ds : List Char} {s formula : String} {l : Lexeme} {p : Nat}
  {ts : List Token} {limits other : Limits} {keys : List String} {t : Tree}

/-- Whether a text has no decimal digits but those of ASCII. -/
def HasAsciiDigits (cs : List Char) : Prop :=
  ∀ c ∈ cs, isDigit c = true → c.isDigit = true

/-- Whether a numeral has no digits other than zero. -/
def HasOnlyZeros (s : String) : Prop :=
  ∀ c ∈ s.toList, isDigit c = true → c = '0'

instance (cs : List Char) : Decidable (HasAsciiDigits cs) :=
  List.decidableBAll (fun c => isDigit c = true → c.isDigit = true) cs

instance (s : String) : Decidable (HasOnlyZeros s) :=
  List.decidableBAll (fun c => isDigit c = true → c = '0') s.toList

/-- Whether a number comes directly after a division sign. -/
def DividesBy (ls : List Lexeme) (s : String) : Prop :=
  [.operator .div, .number s] <:+: ls

/-! ### Digits of a text -/

/-- A part of a text has ASCII digits only if the text has. -/
lemma HasAsciiDigits.of_subset (h : HasAsciiDigits cs) (has : as ⊆ cs) : HasAsciiDigits as :=
  fun c hc => h c (has hc)

/-- An ASCII digit is a digit. -/
lemma isDigit_of_isAsciiDigit (h : c.isDigit = true) : isDigit c = true := by
  obtain ⟨hlow, hhigh⟩ := toNat_of_isAsciiDigit h
  rw [isDigit, digitValue?, Option.isSome_map, List.find?_isSome]
  exact ⟨48, by decide, by simpa using ⟨hlow, hhigh⟩⟩

/-- In a text with ASCII digits only these are all digits. -/
lemma HasAsciiDigits.isDigit_eq (h : HasAsciiDigits cs) (hc : c ∈ cs) : isDigit c = c.isDigit := by
  rw [Bool.eq_iff_iff]
  exact ⟨h c hc, isDigit_of_isAsciiDigit⟩

/-- In a text with ASCII digits only the runs of digits are those of ASCII digits. -/
lemma HasAsciiDigits.span_eq (h : HasAsciiDigits cs) :
    cs.takeWhile isDigit = cs.takeWhile Char.isDigit ∧
      cs.dropWhile isDigit = cs.dropWhile Char.isDigit := by
  induction cs with
  | nil => exact ⟨rfl, rfl⟩
  | cons c cs ih =>
    obtain ⟨htake, hdrop⟩ := ih (h.of_subset (List.subset_cons_self c cs))
    rw [List.takeWhile_cons, List.takeWhile_cons, List.dropWhile_cons, List.dropWhile_cons, htake,
      hdrop, h.isDigit_eq List.mem_cons_self]
    exact ⟨rfl, rfl⟩

/-- What is left of a formula on its line stands in the formula. -/
lemma mem_of_mem_joinLinesAfter {run : List Char} (hc : isBlank c = false)
    (h : c ∈ joinLinesAfter run cs) : c ∈ run ∨ c ∈ cs := by
  have hrun : ∀ {run : List Char}, c ∈ joinedRun run.reverse → c ∈ run := by
    intro run h
    rw [joinedRun] at h
    split at h
    · obtain rfl := List.mem_singleton.1 h
      exact absurd hc (by decide)
    · exact List.mem_reverse.1 h
  induction cs generalizing run with
  | nil => exact .inl (hrun h)
  | cons d cs ih =>
    rw [joinLinesAfter] at h
    split at h
    · next hd =>
      refine (ih h).imp (fun hmem => ?_) (List.mem_cons_of_mem d)
      rcases List.mem_cons.1 hmem with rfl | hmem
      · rw [hc] at hd
        contradiction
      · exact hmem
    · rcases List.mem_append.1 h with h | h
      · exact .inl (hrun h)
      · rcases List.mem_cons.1 h with rfl | h
        · exact .inr List.mem_cons_self
        · exact .inr (List.mem_cons_of_mem d ((ih h).resolve_left List.not_mem_nil))

/-- The line of a formula has ASCII digits only if the formula has. -/
lemma HasAsciiDigits.oneLineChars (h : HasAsciiDigits formula.toList) :
    HasAsciiDigits (oneLineChars formula) := by
  intro c hc hdigit
  have hblank : isBlank c = false := by
    by_contra hblank
    rw [isDigit_eq_false_of_isBlank (by simpa using hblank)] at hdigit
    contradiction
  have hfront : c ∈ (joinLines formula.toList).dropWhile isBlank :=
    (List.rdropWhile_prefix isBlank _).subset hc
  have hjoined := (List.dropWhile_suffix isBlank).subset hfront
  have hmem := (mem_of_mem_joinLinesAfter hblank hjoined).resolve_left List.not_mem_nil
  exact h c hmem hdigit

/-! ### The first number of a text -/

/-- A run of digits has no digits other than zero iff no character of it is another one. -/
lemma any_takeWhile_eq_false_iff : (cs.takeWhile isDigit).any (· != '0') = false ↔
    ∀ c ∈ cs.takeWhile isDigit, isDigit c = true → c = '0' := by
  rw [List.any_eq_false]
  refine forall₂_congr fun c hc => ?_
  have hdigit : isDigit c = true := List.all_eq_true.1 List.all_takeWhile c hc
  simp [hdigit]

/-- After a zero, a digit other than zero is looked for up to the end of the number. -/
lemma hasNonzeroDigit_eq_false_iff (h : HasAsciiDigits cs)
    (hds : firstNumber? ('0' :: cs) = some ds) :
    hasNonzeroDigit cs = false ↔ ∀ c ∈ ds, isDigit c = true → c = '0' := by
  have hzero : isDigit '0' = true := by decide
  have hpoint : isDigit '.' = false := by decide
  obtain ⟨htake, hdrop⟩ := h.span_eq
  simp only [firstNumber?, List.takeWhile_cons_of_pos hzero, List.dropWhile_cons_of_pos hzero,
    List.isEmpty_cons, Bool.false_and, Bool.false_eq_true, if_false] at hds
  rw [hasNonzeroDigit, ← htake, ← hdrop, Bool.or_eq_false_iff, any_takeWhile_eq_false_iff]
  generalize hrest : cs.dropWhile isDigit = others at hds ⊢
  split at hds
  · next rest =>
    obtain rfl := Option.some.inj hds
    have hsubset : rest ⊆ cs := by
      have hsuffix := List.dropWhile_suffix (l := cs) isDigit
      rw [hrest] at hsuffix
      exact fun c hc => hsuffix.subset (List.mem_cons_of_mem '.' hc)
    have hfraction : (rest.takeWhile Char.isDigit).any (· != '0') = false ↔
        ∀ c ∈ rest.takeWhile isDigit, isDigit c = true → c = '0' := by
      rw [← (h.of_subset hsubset).span_eq.1]
      exact any_takeWhile_eq_false_iff
    simp only [hfraction, List.cons_append, List.forall_mem_cons, List.forall_mem_append,
      hpoint, Bool.false_eq_true, false_implies, implies_true, true_and]
  · obtain rfl := Option.some.inj hds
    simp only [and_true, List.forall_mem_cons, implies_true, true_and]

/-- **The texts that start with a zero** are those whose first lexeme is a number that starts with
one and has no digits other than zero. -/
theorem startsWithZero_iff (h : HasAsciiDigits cs) : startsWithZero cs = true ↔
    ∃ s, Lexeme.first? cs = some (.number s) ∧ HasOnlyZeros s ∧ s.toList.head? = some '0' := by
  constructor
  · intro hstart
    unfold startsWithZero at hstart
    split at hstart
    · next rest =>
      have hnumeral : IsNumeral ['0'] :=
        .whole (List.cons_ne_nil _ _) ((List.forall_mem_singleton).2 (by decide))
      obtain ⟨es, hes⟩ := hnumeral.exists_firstNumber? rest
      rw [List.singleton_append] at hes
      refine ⟨String.ofList ('0' :: es), ?_, ?_, by simp⟩
      · simp [Lexeme.first?, hes]
      · have hzeros := hasNonzeroDigit_eq_false_iff (h.of_subset (List.subset_cons_self _ _)) hes
        rw [HasOnlyZeros, String.toList_ofList]
        exact hzeros.1 (by simpa using hstart)
    · contradiction
  · rintro ⟨s, hfirst, hzeros, hhead⟩
    obtain ⟨rest, rfl⟩ := Lexeme.eq_append_of_first? hfirst
    obtain ⟨ds, hs⟩ := List.head?_eq_some_iff.1 hhead
    have hnumber := Lexeme.firstNumber?_of_first? hfirst
    rw [Lexeme.text, hs, List.cons_append] at hnumber h ⊢
    have hiff := hasNonzeroDigit_eq_false_iff (h.of_subset (List.subset_cons_self _ _)) hnumber
    rw [startsWithZero, hiff.2 (hs ▸ hzeros)]
    rfl

/-- A number without digits other than zero starts with a zero or with its point. -/
lemma IsNumeral.head?_eq_zero_iff (h : IsNumeral s.toList) (hzeros : HasOnlyZeros s) :
    s.toList.head? = some '0' ↔ s.toList.head? ≠ some '.' := by
  have hdigits : ∀ {ds rest : List Char}, ds ≠ [] → (∀ c ∈ ds, isDigit c = true) →
      s.toList = ds ++ rest → s.toList.head? = some '0' := by
    intro ds rest hne hds hs
    obtain ⟨d, ds, rfl⟩ := List.exists_cons_of_ne_nil hne
    have hd := hzeros d (by simp [hs]) (hds d List.mem_cons_self)
    rw [hs, hd]
    rfl
  generalize hcs : s.toList = cs at h hdigits
  cases h with
  | whole hne hds => simp [hdigits hne hds (List.append_nil _).symm]
  | decimal hne hds _ => simp [hdigits hne hds rfl]
  | fraction => simp

/-! ### Division signs -/

/-- A text without division signs is passed over. -/
lemma dividesByZero_append (h : '/' ∉ as) (bs : List Char) :
    dividesByZero (as ++ bs) = dividesByZero bs := by
  induction as with
  | nil => rfl
  | cons a as ih =>
    rw [List.mem_cons, not_or] at h
    have ha : (a == '/') = false := beq_false_of_ne (Ne.symm h.1)
    rw [List.cons_append, dividesByZero, ha, Bool.false_and, Bool.false_or, ih h.2]

/-- No other lexeme has a division sign in it. -/
lemma Lexeme.not_mem_text_of_ne (h : first? cs = some l) (hl : l ≠ .operator .div) :
    '/' ∉ l.text.toList := by
  intro hmem
  cases l with
  | number digits =>
    obtain ⟨-, hdigits, -⟩ := firstNumber?_eq_some (firstNumber?_of_first? h)
    rcases hdigits _ hmem with hdigit | hpoint
    · exact absurd hdigit (by decide)
    · exact absurd hpoint (by decide)
  | name s =>
    obtain ⟨-, hs⟩ := takeWhile_of_first? h
    have hname := List.all_eq_true.1 List.all_takeWhile _ (hs ▸ hmem)
    exact absurd hname (by decide)
  | operator op => cases op <;> first | exact hl rfl | exact absurd hmem (by decide)
  | _ => exact absurd hmem (by decide)

/-- The first token of a text is the lexeme that is found after its blanks. -/
lemma Cut.head?_lexemes (h : Cut p cs ts) :
    (ts.map Token.lexeme).head? = Lexeme.first? (cs.dropWhile isBlank) := by
  induction h with
  | nil => rfl
  | blank hblank _ ih => rw [List.dropWhile_cons_of_pos hblank, ih]
  | @token p l rest ts hhead hl _ _ =>
    obtain ⟨c, as, htext⟩ : ∃ c as, l.text.toList = c :: as := by
      refine List.exists_cons_of_length_pos (Nat.pos_of_ne_zero ?_)
      rw [String.length_toList]
      exact Lexeme.text_ne_empty_of_first? hl
    have hc : isBlank c = false := hhead c (by simp [htext])
    rw [htext, List.cons_append] at hl ⊢
    rw [List.dropWhile_cons_of_neg (by simp [hc]), hl]
    rfl

/-- The first division is the one at the front, or it comes later. -/
lemma dividesBy_cons {ls : List Lexeme} :
    DividesBy (l :: ls) s ↔
      (l = .operator .div ∧ ls.head? = some (.number s)) ∨ DividesBy ls s := by
  rw [DividesBy, DividesBy, List.infix_cons_iff, List.cons_prefix_cons]
  refine or_congr_left (and_congr eq_comm ?_)
  cases ls <;> simp [eq_comm]

/-- A text divides by a number that starts with a zero and has no other digits iff such a number
comes directly after a division sign among its tokens.

**Proof sketch.** Induction on the tokens. Neither blanks nor other lexemes hold a division sign.
After a division sign and any blanks, what is found is the next token (`Cut.head?_lexemes`), and
`startsWithZero_iff` says when that is such a number. -/
theorem Cut.dividesByZero_iff (h : Cut p cs ts) (hdigits : HasAsciiDigits cs) :
    dividesByZero cs = true ↔ ∃ s, DividesBy (ts.map Token.lexeme) s ∧ HasOnlyZeros s ∧
      s.toList.head? = some '0' := by
  induction h with
  | nil => simp [dividesByZero, DividesBy]
  | @blank p c cs ts hblank _ ih =>
    have hslash : '/' ∉ [c] := by
      rw [List.mem_singleton]
      rintro rfl
      exact absurd hblank (by decide)
    rw [← List.singleton_append, dividesByZero_append hslash]
    exact ih (hdigits.of_subset (List.subset_cons_self c cs))
  | @token p l rest ts _ hl hcut ih =>
    have hrest : HasAsciiDigits rest := hdigits.of_subset (List.subset_append_right _ _)
    simp only [List.map_cons, dividesBy_cons, or_and_right, exists_or, ← ih hrest]
    by_cases hdiv : l = .operator .div
    · subst hdiv
      have hafter : HasAsciiDigits (rest.dropWhile isBlank) :=
        hrest.of_subset (List.dropWhile_suffix isBlank).subset
      change ('/' == '/' && startsWithZero (rest.dropWhile isBlank) || dividesByZero rest) = true ↔
        _
      rw [beq_self_eq_true, Bool.true_and, Bool.or_eq_true, startsWithZero_iff hafter,
        ← hcut.head?_lexemes]
      simp only [true_and]
    · rw [dividesByZero_append (Lexeme.not_mem_text_of_ne hl hdiv)]
      simp only [hdiv, false_and, exists_false, false_or]

/-- The lexemes of a text are spelled. -/
lemma Cut.isSpelled (h : Cut p cs ts) : ∀ l ∈ ts.map Token.lexeme, l.IsSpelled := by
  induction h with
  | nil => simp
  | blank _ _ ih => exact ih
  | token _ hl _ ih => exact List.forall_mem_cons.2 ⟨Lexeme.isSpelled_of_first? hl, ih⟩

/-! ### Checks -/

/-- **When a check warns of a zero divisor.** Of a formula that can be read, whatever the limits,
and that has ASCII digits only, a check warns iff among its tokens a division sign comes directly
before a number without digits other than zero that does not start with its point. -/
theorem zeroDivisor_mem_warnings_iff (hparse : parse other (some formula) = .ok t)
    (hdigits : HasAsciiDigits formula.toList) :
    ∃ ts, tokens (oneLineChars formula) = .ok ts ∧
      (.zeroDivisor ∈ (check limits (some formula) keys).warnings ↔
        ∃ s, DividesBy (ts.map Token.lexeme) s ∧ HasOnlyZeros s ∧ s.toList.head? ≠ some '.') := by
  obtain ⟨-, -, -, ts, hts, -⟩ := parse_eq_ok_iff.1 hparse
  refine ⟨ts, hts, ?_⟩
  have hwarns : .zeroDivisor ∈ (check limits (some formula) keys).warnings ↔
      dividesByZero (oneLineChars formula) = true := by
    rw [warnings_check_of_parse hparse]
    simp
  have hcut := cut_of_tokens hts
  rw [hwarns, hcut.dividesByZero_iff hdigits.oneLineChars]
  refine exists_congr fun s => and_congr_right fun hdivides => and_congr_right fun hzeros => ?_
  have hspelled := hcut.isSpelled (.number s) (hdivides.subset (by simp))
  exact IsNumeral.head?_eq_zero_iff hspelled hzeros

/-- A check warns of a divisor of zeros on both sides of its point. -/
theorem zeroDivisor_mem_warnings_zeros :
    ∃ t ts, parse ⟨64, some 2000⟩ (some "base_price / 00.0 + 1") = .ok t ∧
      HasAsciiDigits "base_price / 00.0 + 1".toList ∧
      tokens (oneLineChars "base_price / 00.0 + 1") = .ok ts ∧
      DividesBy (ts.map Token.lexeme) "00.0" ∧
      .zeroDivisor ∈ (check ⟨64, some 2000⟩ (some "base_price / 00.0 + 1") []).warnings := by
  have hread : (parse ⟨64, some 2000⟩ (some "base_price / 00.0 + 1")).toOption.isSome = true := by
    decide +kernel
  have hlexemes : (tokens (oneLineChars "base_price / 00.0 + 1")).map (·.map Token.lexeme) =
      .ok [.name "base_price", .operator .div, .number "00.0", .operator .add, .number "1"] := rfl
  have hdigits : HasAsciiDigits "base_price / 00.0 + 1".toList := by decide
  obtain ⟨t, ht⟩ := Option.isSome_iff_exists.1 hread
  rw [toOption_eq_some_iff] at ht
  obtain ⟨ts, hts, hiff⟩ := @zeroDivisor_mem_warnings_iff _ ⟨64, some 2000⟩ _ [] _ ht hdigits
  have hdivides : DividesBy (ts.map Token.lexeme) "00.0" := by
    rw [hts] at hlexemes
    have hmap : ts.map Token.lexeme = _ := Except.ok.inj hlexemes
    rw [DividesBy, hmap]
    decide
  exact ⟨t, ts, ht, hdigits, hts, hdivides, hiff.2 ⟨"00.0", hdivides, by decide, by decide⟩⟩

/-- A check does not warn of a divisor of zeros that starts with its point. -/
theorem zeroDivisor_not_mem_warnings :
    ∃ t ts, parse ⟨64, some 2000⟩ (some "base_price / .0") = .ok t ∧
      HasAsciiDigits "base_price / .0".toList ∧
      tokens (oneLineChars "base_price / .0") = .ok ts ∧
      DividesBy (ts.map Token.lexeme) ".0" ∧ HasOnlyZeros ".0" ∧
      .zeroDivisor ∉ (check ⟨64, some 2000⟩ (some "base_price / .0") []).warnings := by
  have hread : (parse ⟨64, some 2000⟩ (some "base_price / .0")).toOption.isSome = true := by
    decide +kernel
  obtain ⟨t, ht⟩ := Option.isSome_iff_exists.1 hread
  have hnone : dividesByZero (oneLineChars "base_price / .0") = false := by decide +kernel
  have htokens : tokens (oneLineChars "base_price / .0") =
      .ok [⟨.name "base_price", 0⟩, ⟨.operator .div, 11⟩, ⟨.number ".0", 13⟩] := rfl
  refine ⟨t, _, toOption_eq_some_iff.1 ht, by decide, htokens, ⟨[.name "base_price"], [], rfl⟩,
    by decide, ?_⟩
  rw [warnings_check_of_parse (toOption_eq_some_iff.1 ht), hnone]
  simp

end Tariff.Formula
