import Tariff.Proofs.Formula.Exactness
import Tariff.Proofs.Formula.Layout
import Tariff.Proofs.Formula.Names

/-!
# Checking and reading agree

A formula passes the check iff it can be read, holds no forbidden word, and its tree uses known
names only. The fields that the check reports as unused are those that the tree does not name.

## Main results

* `Tariff.Formula.names_of_parse` — the words of a formula that is read.
* `Tariff.Formula.mem_calledNames_of_parse` — a call that keeps a formula from being read shows in
  its words.
* `Tariff.Formula.isValid_check_iff_parse`, `Tariff.Formula.warnings_check_of_parse` — the verdict
  and the warnings of a check in terms of the tree.
* `Tariff.Formula.check_agrees` — checking and reading agree.
-/

set_option autoImplicit false

namespace Tariff.Formula

open Tariff.Text

variable {limits : Limits} {formula s : String} {keys : List String} {cs : List Char} {t : Tree}

/-! ### The parts of a check -/

/-- A text holds another one iff that is a part of it. -/
lemma holdsText_iff {sought : List Char} : holdsText sought cs = true ↔ sought <:+: cs := by
  induction cs with
  | nil => rw [holdsText, List.isEmpty_iff, List.infix_nil]
  | cons c cs ih =>
    rw [holdsText, Bool.or_eq_true, ih, List.isPrefixOf_iff_prefix, List.infix_cons_iff]

/-- A formula may use the keys and the name of the base price. -/
lemma mem_availableNames : s ∈ availableNames keys ↔ s ∈ keys ∨ s = "base_price" := by
  simp only [availableNames, systemNames, List.mem_append, List.mem_filter, List.mem_singleton,
    List.contains_eq_mem, Bool.not_eq_true', decide_eq_false_iff_not]
  tauto

/-- What it takes for the words of a text to show no problem. -/
lemma wordProblems_eq_nil_iff :
    wordProblems cs keys = [] ↔
      imbalance? cs = none ∧ (∀ w ∈ forbiddenWords, ¬ w.toList <:+: cs) ∧
      (∀ s ∈ calledNames cs, (Function.ofName? (lowerAscii s)).isSome = true) ∧
      ∀ s ∈ usedNames cs, s ∈ keys ∨ s = "base_price" := by
  simp only [wordProblems, List.append_eq_nil_iff, List.map_eq_nil_iff, Option.toList_eq_nil_iff,
    List.filter_eq_nil_iff, holdsText_iff, Option.isNone_iff_eq_none, Bool.not_eq_true',
    List.contains_eq_mem, decide_eq_false_iff_not, mem_availableNames, not_not, and_assoc,
    ← Option.isSome_iff_ne_none]

/-- Reading shows no problem iff the formula is read or calls what is no function. -/
lemma readingProblems_eq_nil_iff :
    readingProblems limits formula = [] ↔
      (∃ t, parse limits (some formula) = .ok t) ∨
      ∃ s, parse limits (some formula) = .error (.unknownFunction s) := by
  unfold readingProblems
  split
  · next t ht => simp [ht]
  · next s hs => simp [hs]
  · next e hne he =>
    simp only [he, List.cons_ne_nil, reduceCtorEq, exists_false, Except.error.injEq, false_or,
      false_iff, not_exists]
    exact fun s hs => hne s hs

/-- A check looks at the words of a formula, and at the formula itself if they show no problem. -/
lemma isValid_check_iff :
    (check limits (some formula) keys).isValid = true ↔
      isBlankText formula = false ∧
      wordProblems (oneLineChars formula) keys.eraseDups = [] ∧
      readingProblems limits formula = [] := by
  have hline : readingProblems limits (oneLine formula) = readingProblems limits formula := by
    rw [readingProblems, parse_oneLine, readingProblems]
  cases hblank : isBlankText formula with
  | true => simp [check, hblank, Report.isValid]
  | false =>
    rw [← hline]
    cases hwords : wordProblems (oneLineChars formula) keys.eraseDups with
    | nil => simp [check, hblank, Report.isValid, hwords, oneLine]
    | cons problem others => simp [check, hblank, Report.isValid, hwords]

/-! ### The words of a formula that is read -/

/-- The words of a formula that is read call functions only, and the names that they use otherwise
are those of the tree. -/
theorem names_of_parse (h : parse limits (some formula) = .ok t) :
    (∀ s ∈ calledNames (oneLineChars formula), (Function.ofName? (lowerAscii s)).isSome = true) ∧
      usedNames (oneLineChars formula) = t.names := by
  obtain ⟨-, -, ts, p, hts, hp, hcalls, -, ht⟩ := parse_eq_ok_iff_derives.1 h
  constructor
  · intro s hs
    rw [calledNames_eq hts, List.mem_eraseDups] at hs
    exact hp.isSome_ofName? hcalls s hs
  · rw [usedNames_eq hts hp.apart, ← hp.occurrences_eq ht]
    rfl

/-- A call of no function that keeps a formula from being read shows in its words. -/
theorem mem_calledNames_of_parse (h : parse limits (some formula) = .error (.unknownFunction s)) :
    s ∈ calledNames (oneLineChars formula) ∧ Function.ofName? (lowerAscii s) = none := by
  rcases parse_error_cases h with h | ⟨_, h⟩ | ⟨_, h⟩ | ⟨_, _, h⟩ | ⟨ts, hts, hraised⟩
  · simp at h
  · simp at h
  · simp at h
  · simp at h
  · obtain ⟨hmem, hnone⟩ := hraised.mem_namesIn
    rw [calledNames_eq hts, List.mem_eraseDups]
    exact ⟨hmem, hnone⟩

/-! ### Checks -/

/-- A formula passes the check iff no forbidden word occurs on its line, it can be read, and its
tree uses known names only.

**Proof sketch.** The names in the words of a line are those of the tree (`names_of_parse`). If a
call of no function kept the formula from being read, it would have shown in the words
(`mem_calledNames_of_parse`), so it is no loss that reading does not report it. -/
theorem isValid_check_iff_parse :
    (check limits (some formula) keys).isValid = true ↔
      (∀ w ∈ forbiddenWords, ¬ w.toList <:+: oneLineChars formula) ∧
      ∃ t, parse limits (some formula) = .ok t ∧ ∀ s ∈ t.names, s ∈ keys ∨ s = "base_price" := by
  rw [isValid_check_iff, wordProblems_eq_nil_iff, readingProblems_eq_nil_iff]
  constructor
  · rintro ⟨-, ⟨-, hforbidden, hcalled, hused⟩, ⟨t, ht⟩ | ⟨s, hs⟩⟩
    · refine ⟨hforbidden, t, ht, ?_⟩
      rw [← (names_of_parse ht).2]
      simpa using hused
    · obtain ⟨hmem, hnone⟩ := mem_calledNames_of_parse hs
      have hsome := hcalled s hmem
      rw [hnone] at hsome
      simp at hsome
  · rintro ⟨hforbidden, t, ht, hnames⟩
    obtain ⟨hblank, -, hparens, -⟩ := parse_eq_ok_iff.1 ht
    obtain ⟨hcalled, hused⟩ := names_of_parse ht
    refine ⟨hblank, ⟨hparens, hforbidden, hcalled, ?_⟩, .inl ⟨t, ht⟩⟩
    rw [hused]
    simpa using hnames

/-- The warnings about a formula that can be read, whatever the limits of the reading. -/
theorem warnings_check_of_parse {other : Limits} (h : parse other (some formula) = .ok t) :
    let unused := keys.eraseDups.filter fun key => !t.names.contains key
    (check limits (some formula) keys).warnings =
      (if unused = [] then [] else [.unusedFields unused]) ++
        if dividesByZero (oneLineChars formula) then [.zeroDivisor] else [] := by
  intro unused
  obtain ⟨hblank, -⟩ := parse_eq_ok_iff.1 h
  have hunused : unusedKeys (oneLineChars formula) keys.eraseDups = unused := by
    rw [unusedKeys, (names_of_parse h).2]
  simp only [check, hblank, Bool.false_eq_true, if_false, warningsFor, hunused, List.isEmpty_iff]

/-- **Checking and reading agree.** A formula passes the check iff no forbidden word occurs on its
line, it can be read, and each name of its tree is a key or the name of the base price. If it can be
read, whatever the limits, the check warns of exactly the keys that the tree does not name, each
once and in their order, and of no keys if there are none. -/
theorem check_agrees (limits : Limits) (formula : String) (keys : List String) :
    ((check limits (some formula) keys).isValid = true ↔
      (∀ w ∈ forbiddenWords, ¬ w.toList <:+: oneLineChars formula) ∧
      ∃ t, parse limits (some formula) = .ok t ∧ ∀ s ∈ t.names, s ∈ keys ∨ s = "base_price") ∧
    ∀ (other : Limits) (t : Tree), parse other (some formula) = .ok t →
      let unused := keys.eraseDups.filter fun key => !t.names.contains key
      (check limits (some formula) keys).warnings =
        (if unused = [] then [] else [.unusedFields unused]) ++
          if dividesByZero (oneLineChars formula) then [.zeroDivisor] else [] :=
  ⟨isValid_check_iff_parse, fun _ _ => warnings_check_of_parse⟩

end Tariff.Formula
