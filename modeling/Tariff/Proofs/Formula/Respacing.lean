import Tariff.Proofs.Formula.Descent.Places
import Tariff.Proofs.Formula.Exactness
import Tariff.Proofs.Formula.Layout

/-!
# Layout is of no account

The line of a formula has the same words as the formula, so it is cut into the same lexemes. What
is read depends on the lexemes alone: the test for blanks, the count of parentheses and the descent
see the same in two formulas with the same lexemes, whatever blanks and line breaks they have.

## Main results

* `Tariff.Formula.alike_tokens_oneLine` — a formula and its line are cut alike.
* `Tariff.Formula.parse_alike` — formulas with the same lexemes are read alike.
* `Tariff.Formula.layout_of_no_account` — both, and a line is laid out as itself.
-/

set_option autoImplicit false

namespace Tariff.Formula

open Tariff.Text

variable {f g : String} {ts us : List Token}

/-! ### A formula and its line -/

/-- A joined run is empty iff the run is. -/
lemma joinedRun_eq_nil_iff {run : List Char} : joinedRun run = [] ↔ run = [] := by
  unfold joinedRun
  split
  · next h =>
    constructor
    · simp
    · rintro rfl
      simp at h
  · rfl

/-- A word with blanks after it comes first, or it comes last. -/
lemma Respaced.word_blanks (w : List Char) {us vs as bs : List Char} (hus : us.all isBlank = true)
    (hvs : vs.all isBlank = true) (has : us = [] → as = []) (hbs : vs = [] → bs = [])
    (h : Respaced as bs) : Respaced (w ++ (us ++ as)) (w ++ (vs ++ bs)) := by
  have hhead : ∀ {us as : List Char}, us.all isBlank = true → (us = [] → as = []) →
      ∀ c ∈ (us ++ as).head?, isBlank c = true := by
    intro us as hus has c hc
    cases us with
    | nil => simp [has rfl] at hc
    | cons u us =>
      obtain rfl : u = c := by simpa using hc
      exact List.all_eq_true.1 hus u List.mem_cons_self
  exact .word w (hhead hus has) (hhead hvs hbs) (.blanks hus hvs h)

/-- Joining lines keeps the words.

**Proof sketch.** Induction on the text, with the word and the run of blanks that come just before
it. A character of a word goes to the word if no blanks are between them; else the word and the run
are complete. -/
lemma respaced_joinLinesAfter (w run cs : List Char) (hrun : run.all isBlank = true) :
    Respaced (w ++ (run.reverse ++ cs)) (w ++ joinLinesAfter run cs) := by
  induction cs generalizing w run with
  | nil =>
    have hreverse : run.reverse.all isBlank = true := by rwa [List.all_reverse]
    rw [joinLinesAfter, ← List.append_nil (joinedRun run.reverse)]
    exact .word_blanks w hreverse (all_isBlank_joinedRun hreverse) (fun _ => rfl) (fun _ => rfl)
      .nil
  | cons c cs ih =>
    unfold joinLinesAfter
    split
    · next hc =>
      have hrun' : (c :: run).all isBlank = true := by rw [List.all_cons, hc, hrun]; rfl
      simpa using ih w (c :: run) hrun'
    · cases run with
      | nil => simpa [joinedRun] using ih (w ++ [c]) [] rfl
      | cons b run =>
        have hreverse : (b :: run).reverse.all isBlank = true := by rwa [List.all_reverse]
        have hnext : Respaced (c :: cs) (c :: joinLinesAfter [] cs) := ih [c] [] rfl
        exact .word_blanks w hreverse (all_isBlank_joinedRun hreverse) (fun h => by simp at h)
          (fun h => absurd (joinedRun_eq_nil_iff.1 h) (by simp)) hnext

/-- Trimming keeps the words. -/
lemma respaced_trimBlanks (cs : List Char) : Respaced cs (trimBlanks cs) := by
  obtain ⟨front, back, hfront, hback, hcs⟩ := eq_append_trimBlanks cs
  have hword : Respaced (trimBlanks cs ++ (back ++ [])) (trimBlanks cs ++ ([] ++ [])) :=
    .word_blanks _ hback rfl (fun _ => rfl) (fun _ => rfl) .nil
  have hall : Respaced (front ++ (trimBlanks cs ++ (back ++ [])))
      ([] ++ (trimBlanks cs ++ ([] ++ []))) := .blanks hfront rfl hword
  simpa [← hcs] using hall

/-- **A formula and its line are cut alike**: into the same lexemes, or they fail at the same
character. -/
theorem alike_tokens_oneLine (f : String) :
    Alike (SameCharacter 0 f.toList 0 (oneLine f).toList) SameLexemes (tokens f.toList)
      (tokens (oneLine f).toList) := by
  have hjoin : Respaced f.toList (joinLines f.toList) := respaced_joinLinesAfter [] [] f.toList rfl
  have htrim := respaced_trimBlanks (joinLines f.toList)
  rw [oneLine, String.toList_ofList, oneLineChars]
  exact (hjoin.alike 0 0).trans (htrim.alike 0 0) (fun _ _ _ => SameCharacter.trans)
    fun _ _ _ => Eq.trans

/-! ### Formulas with the same lexemes -/

/-- A text is blank iff it has no lexemes. -/
lemma Cut.all_isBlank {p : Nat} {cs : List Char} (h : Cut p cs ts) :
    cs.all isBlank = (ts.map Token.lexeme).isEmpty := by
  induction h with
  | nil => rfl
  | blank hc _ ih => rw [List.all_cons, hc, ih, Bool.true_and]
  | @token p l rest ts hhead hl _ _ =>
    have hne := Lexeme.text_ne_empty_of_first? hl
    cases htext : l.text.toList with
    | nil => simp [← String.length_toList, htext] at hne
    | cons c cs =>
      have hc : isBlank c = false := hhead c (by simp [htext])
      simp [hc]

/-- The line of a formula that is cut into tokens is cut into the same lexemes. -/
lemma exists_tokens_oneLineChars (h : tokens f.toList = .ok ts) :
    ∃ us, tokens (oneLineChars f) = .ok us ∧ SameLexemes ts us := by
  have halike := alike_tokens_oneLine f
  rw [h, oneLine, String.toList_ofList] at halike
  exact halike.exists_eq_ok

/-- **Formulas with the same lexemes are read alike**, if no length is too great: as the same tree,
or they fail for the same cause.

**Proof sketch.** Their lines have the same lexemes too, and each step of `parse_eq` sees the
lexemes alone: a text is blank iff it has none (`Cut.all_isBlank`), its parentheses are those among
them (`Cut.imbalanceAfter_eq`), and the descents correspond (`Descent.alike_whole`). -/
theorem parse_alike (hf : tokens f.toList = .ok ts) (hg : tokens g.toList = .ok us)
    (h : SameLexemes ts us) (depth : Int) :
    Alike SameCause Eq (parse ⟨depth, none⟩ (some f)) (parse ⟨depth, none⟩ (some g)) := by
  obtain ⟨ts', hts', hts⟩ := exists_tokens_oneLineChars hf
  obtain ⟨us', hus', hus⟩ := exists_tokens_oneLineChars hg
  have hlines : SameLexemes ts' us' := (hts.symm.trans h).trans hus
  have hblank : isBlankText f = isBlankText g := by
    rw [isBlankText, isBlankText, (cut_of_tokens hf).all_isBlank, (cut_of_tokens hg).all_isBlank, h]
  have hparens : imbalance? (oneLineChars f) = imbalance? (oneLineChars g) := by
    rw [imbalance?, imbalance?, (cut_of_tokens hts').imbalanceAfter_eq,
      (cut_of_tokens hus').imbalanceAfter_eq, hlines]
  rw [parse_eq, parse_eq, hblank, hparens, hts', hus']
  split
  · exact .error rfl
  · dsimp only [Limits.exceeded?, Option.bind_none]
    split
    · exact .error rfl
    · exact Descent.alike_whole rfl hlines

/-- **Layout is of no account.** A line is laid out as itself and is cut like its formula: into the
same lexemes, or they fail at the same character. Formulas that are cut into the same lexemes are
read as the same tree, or they fail for the same cause, when no limit is set to their length. -/
theorem layout_of_no_account :
    (∀ f : String, oneLine (oneLine f) = oneLine f ∧
      Alike (SameCharacter 0 f.toList 0 (oneLine f).toList) SameLexemes (tokens f.toList)
        (tokens (oneLine f).toList)) ∧
    ∀ (f g : String) (ts us : List Token) (depth : Int), tokens f.toList = .ok ts →
      tokens g.toList = .ok us → ts.map Token.lexeme = us.map Token.lexeme →
        Alike SameCause Eq (parse ⟨depth, none⟩ (some f)) (parse ⟨depth, none⟩ (some g)) := by
  constructor
  · intro f
    refine ⟨?_, alike_tokens_oneLine f⟩
    rw [oneLine, oneLineChars_oneLine, oneLine]
  · intro f g ts us depth hf hg h
    exact parse_alike hf hg h depth

/-- A sum in two lines and without blanks. -/
theorem layout_of_no_account_sum :
    ∃ ts us, tokens "1\r\n + 2".toList = .ok ts ∧ tokens "1+2".toList = .ok us ∧
      ts.map Token.lexeme = us.map Token.lexeme ∧
      Alike SameCause Eq (parse ⟨1, none⟩ (some "1\r\n + 2")) (parse ⟨1, none⟩ (some "1+2")) :=
  ⟨_, _, rfl, rfl, rfl, layout_of_no_account.2 _ _ _ _ 1 rfl rfl rfl⟩

end Tariff.Formula
