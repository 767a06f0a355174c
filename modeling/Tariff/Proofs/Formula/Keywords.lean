import Tariff.Catalog
import Tariff.Proofs.Formula.Checking
import Tariff.Proofs.Formula.Interpretation

/-!
# Forbidden words in a formula that can be read

The forbidden words are looked for in the text of a formula, not among its names. A formula that can
be read holds such a word only inside of a name that it uses: no word of letters runs across two
tokens, and neither the functions nor the words with a meaning of their own hold one. So of the
formulas that can be read and use known names only, the check rejects those with a forbidden word
inside of a name, and it finds nothing else wrong with them.

## Main results

* `Tariff.Formula.Cut.infix_iff` — a word of letters occurs in a text iff it occurs in a name.
* `Tariff.Formula.infix_oneLineChars_iff` — the same for the names of the tree of a formula.
* `Tariff.Formula.problems_of_parse` — what the check finds in a formula that can be read.
-/

set_option autoImplicit false

namespace Tariff.Formula

open Tariff.Text

/-! ### Words of letters in a text -/

section

variable {as bs w : List Char} {c : Char}

/-- What does not stand in names is no letter. -/
lemma isNameStart_eq_false (h : isNameChar c = false) : isNameStart c = false := by
  by_contra hletter
  have hname := isNameChar_of_isNameStart (by simpa using hletter)
  rw [h] at hname
  simp at hname

/-- A word of letters does not run across the end of a run of letters, nor into one. -/
lemma infix_append_iff (hw : ∀ c ∈ w, isNameStart c = true)
    (hcut : (∀ c ∈ as, isNameStart c = false) ∨ ∀ c ∈ bs.head?, isNameStart c = false) :
    w <:+: as ++ bs ↔ w <:+: as ∨ w <:+: bs := by
  constructor
  · intro h
    rcases List.infix_append_iff_ne_nil.1 h with h | h | ⟨u, v, hu, hv, rfl, hsuffix, hprefix⟩
    · exact .inl h
    · exact .inr h
    -- the last letter before the cut and the first one after it are both letters of the word
    · rcases hcut with has | hbs
      · obtain ⟨c, hc⟩ := List.exists_mem_of_ne_nil u hu
        have hletter := hw c (List.mem_append_left v hc)
        rw [has c (hsuffix.subset hc)] at hletter
        simp at hletter
      · obtain ⟨c, v, rfl⟩ := List.exists_cons_of_ne_nil hv
        obtain ⟨rest, rfl⟩ := hprefix
        have hletter := hw c (by simp)
        rw [hbs c (by simp)] at hletter
        simp at hletter
  · rintro (h | h)
    · exact h.trans (List.prefix_append as bs).isInfix
    · exact h.trans (List.suffix_append as bs).isInfix

/-- A word of letters is no part of a text without letters. -/
lemma not_infix_of_forall (hne : w ≠ []) (hw : ∀ c ∈ w, isNameStart c = true)
    (has : ∀ c ∈ as, isNameStart c = false) : ¬ w <:+: as := by
  intro h
  obtain ⟨c, hc⟩ := List.exists_mem_of_ne_nil w hne
  have hletter := hw c hc
  rw [has c (h.subset hc)] at hletter
  simp at hletter

/-- A text without letters is passed over when a word of letters is looked for. -/
lemma infix_append_iff_right (hne : w ≠ []) (hw : ∀ c ∈ w, isNameStart c = true)
    (has : ∀ c ∈ as, isNameStart c = false) : w <:+: as ++ bs ↔ w <:+: bs := by
  rw [infix_append_iff hw (.inl has)]
  exact or_iff_right (not_infix_of_forall hne hw has)

end

section

variable {p : Nat} {cs w : List Char} {ts : List Token} {l : Lexeme} {s : String}

/-- Only names have letters in them. -/
lemma Lexeme.isNameStart_eq_false_of_mem (h : first? cs = some l) (hl : ∀ s, l ≠ .name s) :
    ∀ c ∈ l.text.toList, isNameStart c = false := by
  intro c hc
  by_contra hletter
  have hletter : isNameStart c = true := by simpa using hletter
  cases hmark : l.isMark with
  | true =>
    rw [isNameStart_eq_false (isNameChar_eq_false_of_isMark hmark c hc)] at hletter
    simp at hletter
  | false =>
    cases l with
    | number digits =>
      obtain ⟨-, hdigits, -⟩ := firstNumber?_eq_some (firstNumber?_of_first? h)
      rcases hdigits c hc with hdigit | rfl
      · rw [isDigit_eq_false_of_isNameStart hletter] at hdigit
        simp at hdigit
      · exact absurd hletter (by decide)
    | name s => exact hl s rfl
    | _ => simp [isMark] at hmark

/-- **A word of letters occurs in a text iff it occurs in a name** among the tokens of the text.

**Proof sketch.** Induction on the tokens. A name ends where no letter follows, and neither blanks
nor other lexemes have letters in them, so the word stays within one token. -/
theorem Cut.infix_iff (h : Cut p cs ts) (hne : w ≠ []) (hw : ∀ c ∈ w, isNameStart c = true) :
    w <:+: cs ↔ ∃ s, .name s ∈ ts.map Token.lexeme ∧ w <:+: s.toList := by
  induction h with
  | nil => simp [hne]
  | @blank p c cs ts hblank _ ih =>
    have hfree : ∀ d ∈ [c], isNameStart d = false := by
      intro d hd
      obtain rfl := List.mem_singleton.1 hd
      exact isNameStart_eq_false (isNameChar_eq_false_of_isBlank hblank)
    rw [← ih, ← List.singleton_append]
    exact infix_append_iff_right hne hw hfree
  | @token p l rest ts _ hl _ ih =>
    have hexists : (∃ s, Lexeme.name s ∈ (⟨l, p⟩ :: ts : List Token).map Token.lexeme ∧
        w <:+: s.toList) ↔ (∃ s, l = .name s ∧ w <:+: s.toList) ∨ w <:+: rest := by
      rw [ih, List.map_cons]
      simp only [List.mem_cons, or_and_right, exists_or, eq_comm]
    rw [hexists]
    by_cases hname : ∃ s, l = .name s
    · obtain ⟨s, rfl⟩ := hname
      obtain ⟨-, -, hrest⟩ := Lexeme.isNameStart_of_first? hl
      have hend : ∀ c ∈ rest.head?, isNameStart c = false := fun c hc =>
        isNameStart_eq_false (hrest c hc)
      have hself : (∃ s', Lexeme.name s = .name s' ∧ w <:+: s'.toList) ↔ w <:+: s.toList := by
        simp
      rw [hself]
      exact infix_append_iff hw (.inr hend)
    · have hfree := Lexeme.isNameStart_eq_false_of_mem hl fun s hs => hname ⟨s, hs⟩
      rw [infix_append_iff_right hne hw hfree]
      exact (or_iff_right fun ⟨s, hs, _⟩ => hname ⟨s, hs⟩).symm

end

/-! ### Forbidden words -/

section

variable {limits : Limits} {formula s w : String} {keys : List String} {ls : List Lexeme} {t : Tree}

/-- The forbidden words are words of letters. -/
lemma isNameStart_of_mem_forbiddenWords :
    ∀ w ∈ forbiddenWords, w.toList ≠ [] ∧ ∀ c ∈ w.toList, isNameStart c = true := by
  have hwords : (forbiddenWords.all fun w =>
      !w.toList.isEmpty && w.toList.all isNameStart) = true := by decide
  intro w hw
  have hword := List.all_eq_true.1 hwords w hw
  rw [Bool.and_eq_true, List.all_eq_true] at hword
  exact ⟨by simpa using hword.1, hword.2⟩

/-- Each name among some lexemes is called or not. -/
lemma name_mem_iff : .name s ∈ ls ↔ s ∈ namesIn true ls ∨ s ∈ namesIn false ls := by
  induction ls with
  | nil => simp [namesIn]
  | cons l ls ih =>
    cases l with
    | name r =>
      rw [List.mem_cons, ih, Lexeme.name.injEq, namesIn, namesIn]
      cases ls.head? == some .openParen <;> simp [or_left_comm, or_assoc]
    | _ => simpa [namesIn] using ih

/-- No word that has a meaning in letters of any case holds a forbidden word. -/
lemma not_infix_of_lowerAscii {name : String} (hw : w ∈ forbiddenWords)
    (hname : name ∈ Function.all.map Function.name ++ ["true", "false", "null", "undefined"])
    (hs : lowerAscii s = name) : ¬ w.toList <:+: s.toList := by
  have hfree : ∀ w ∈ forbiddenWords,
      ∀ name ∈ Function.all.map Function.name ++ ["true", "false", "null", "undefined"],
        holdsText (w.toList.map Char.toLower) name.toList = false := by
    decide
  intro h
  have hlower : w.toList.map Char.toLower <:+: name.toList := by
    rw [← hs, lowerAscii, String.toList_ofList]
    exact h.map Char.toLower
  rw [← holdsText_iff, hfree w hw name hname] at hlower
  simp at hlower

/-- **A forbidden word occurs in a formula that is read iff it occurs in a name of its tree.**

**Proof sketch.** The word occurs in a name among the tokens (`Cut.infix_iff`). A name that is
called is that of a function, and of the other names those with a meaning of their own are not in
the tree; neither kind holds a forbidden word. -/
theorem infix_oneLineChars_iff (h : parse limits (some formula) = .ok t)
    (hw : w ∈ forbiddenWords) :
    w.toList <:+: oneLineChars formula ↔ ∃ s ∈ t.names, w.toList <:+: s.toList := by
  obtain ⟨-, -, ts, p, hts, hp, hcalls, -, ht⟩ := parse_eq_ok_iff_derives.1 h
  obtain ⟨hne, hletters⟩ := isNameStart_of_mem_forbiddenWords w hw
  have hnames : ∀ s, s ∈ t.names ↔
      s ∈ namesIn false (ts.map Token.lexeme) ∧ isLiteralName s = false := by
    intro s
    rw [Tree.names, List.mem_eraseDups, hp.occurrences_eq ht, List.mem_filter,
      Bool.not_eq_true']
  rw [(cut_of_tokens hts).infix_iff hne hletters]
  constructor
  · rintro ⟨s, hs, hinfix⟩
    rcases name_mem_iff.1 hs with hcalled | hused
    · obtain ⟨f, hf⟩ := Option.isSome_iff_exists.1 (hp.isSome_ofName? hcalls s hcalled)
      have hname := List.mem_map_of_mem (f := Function.name) (List.mem_of_find?_eq_some hf)
      exact absurd hinfix
        (not_infix_of_lowerAscii hw (List.mem_append_left _ hname) (Function.eq_name_of_ofName? hf))
    · cases hliteral : isLiteralName s with
      | false => exact ⟨s, (hnames s).2 ⟨hused, hliteral⟩, hinfix⟩
      | true =>
        have hmeaning := List.contains_iff_mem.1 hliteral
        exact absurd hinfix
          (not_infix_of_lowerAscii hw (List.mem_append_right _ hmeaning) rfl)
  · rintro ⟨s, hs, hinfix⟩
    exact ⟨s, name_mem_iff.2 (.inr ((hnames s).1 hs).1), hinfix⟩

/-- The words of a formula that is read and uses known names show no problem but forbidden words. -/
lemma wordProblems_of_parse (h : parse limits (some formula) = .ok t)
    (hnames : ∀ s ∈ t.names, s ∈ keys ∨ s = "base_price") :
    wordProblems (oneLineChars formula) keys.eraseDups =
      (forbiddenWords.filter fun w => t.names.any fun s => holdsText w.toList s.toList).map
        .forbidden := by
  obtain ⟨-, -, hparens, -⟩ := parse_eq_ok_iff.1 h
  obtain ⟨hcalled, hused⟩ := names_of_parse h
  have hunknown : (calledNames (oneLineChars formula)).filter
      (fun name => (Function.ofName? (lowerAscii name)).isNone) = [] :=
    List.filter_eq_nil_iff.2 fun s hs => by simp [Option.isSome_iff_ne_none.1 (hcalled s hs)]
  have hstray : (usedNames (oneLineChars formula)).filter
      (fun name => !(availableNames keys.eraseDups).contains name) = [] := by
    refine List.filter_eq_nil_iff.2 fun s hs => ?_
    rw [hused] at hs
    have hknown := mem_availableNames.2 (by simpa using hnames s hs : s ∈ keys.eraseDups ∨ _)
    simp [hknown]
  have hheld : forbiddenWords.filter (fun w => holdsText w.toList (oneLineChars formula)) =
      forbiddenWords.filter fun w => t.names.any fun s => holdsText w.toList s.toList := by
    refine List.filter_congr fun w hw => Bool.eq_iff_iff.2 ?_
    rw [holdsText_iff, infix_oneLineChars_iff h hw, List.any_eq_true]
    simp only [holdsText_iff]
  simp only [wordProblems, hparens, hunknown, hstray, hheld, Option.toList_none, List.map_nil,
    List.nil_append, List.append_nil]

/-- **What the check finds in a formula that can be read** and uses known names only: the forbidden
words inside of these names. So it passes the check iff no name holds a forbidden word. -/
theorem problems_of_parse (h : parse limits (some formula) = .ok t)
    (hnames : ∀ s ∈ t.names, s ∈ keys ∨ s = "base_price") :
    (check limits (some formula) keys).problems =
        (forbiddenWords.filter fun w => t.names.any fun s => holdsText w.toList s.toList).map
          .forbidden ∧
      ((check limits (some formula) keys).isValid = true ↔
        ∀ s ∈ t.names, ∀ w ∈ forbiddenWords, ¬ w.toList <:+: s.toList) := by
  obtain ⟨hblank, -⟩ := parse_eq_ok_iff.1 h
  have hreading : readingProblems limits (String.ofList (oneLineChars formula)) = [] := by
    change readingProblems limits (oneLine formula) = []
    rw [readingProblems, parse_oneLine, h]
  have hproblems : (check limits (some formula) keys).problems =
      (forbiddenWords.filter fun w => t.names.any fun s => holdsText w.toList s.toList).map
        .forbidden := by
    simp only [check, hblank, Bool.false_eq_true, if_false, wordProblems_of_parse h hnames,
      hreading]
    split
    · next hnone => exact (List.isEmpty_iff.1 hnone).symm
    · rfl
  refine ⟨hproblems, ?_⟩
  rw [Report.isValid, hproblems, List.isEmpty_iff, List.map_eq_nil_iff, List.filter_eq_nil_iff]
  simp only [List.any_eq_true, holdsText_iff, not_exists, not_and]
  exact ⟨fun h s hs w hw => h w hw s hs, fun h w hw s hs => h s hs w hw⟩

/-- A name that holds two forbidden words keeps a formula that can be read from passing the
check. -/
theorem problems_of_parse_twoWords :
    ∃ t, parse ⟨64, some 2000⟩ (some "2 * import_process + base_price") = .ok t ∧
      (∀ s ∈ t.names, s ∈ ["import_process"] ∨ s = "base_price") ∧
      (check ⟨64, some 2000⟩ (some "2 * import_process + base_price") ["import_process"]).problems =
        [.forbidden "import", .forbidden "process"] := by
  have hread : (parse ⟨64, some 2000⟩ (some "2 * import_process + base_price")).toOption.map
      Tree.names = some ["import_process", "base_price"] := by decide +kernel
  obtain ⟨t, ht, hnames⟩ := Option.map_eq_some_iff.1 hread
  have hknown : ∀ s ∈ t.names, s ∈ ["import_process"] ∨ s = "base_price" := by simp [hnames]
  refine ⟨t, toOption_eq_some_iff.1 ht, hknown, ?_⟩
  have hheld : (forbiddenWords.filter fun w =>
      ["import_process", "base_price"].any fun s => holdsText w.toList s.toList) =
        ["import", "process"] := by decide
  rw [(problems_of_parse (toOption_eq_some_iff.1 ht) hknown).1, hnames, hheld]
  rfl

/-- A formula that consists of the key of a field is rejected if the key holds a forbidden word. -/
theorem not_isValid_processing_fee : isFieldKey "processing_fee" = true ∧
    (∃ t, parse ⟨64, some 2000⟩ (some "processing_fee") = .ok t ∧
      ∀ s ∈ t.names, s ∈ ["processing_fee"] ∨ s = "base_price") ∧
    (check ⟨64, some 2000⟩ (some "processing_fee") ["processing_fee"]).isValid = false := by
  have hread : (parse ⟨64, some 2000⟩ (some "processing_fee")).toOption.map Tree.names =
      some ["processing_fee"] := by decide +kernel
  obtain ⟨t, ht, hnames⟩ := Option.map_eq_some_iff.1 hread
  exact ⟨by decide, ⟨t, toOption_eq_some_iff.1 ht, by simp [hnames]⟩, by decide +kernel⟩

end

end Tariff.Formula
