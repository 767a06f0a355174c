import Mathlib.Tactic.Common
import Tariff.Formula.Token
import Tariff.Proofs.Outcome

/-!
# How a text is cut into tokens

A text falls apart into blanks and lexemes, from left to right. The lexeme at a place is the first
one that is found there, and the text goes on after its last character.

## Main definitions

* `Tariff.Formula.Cut` — a text from a place on and its tokens.

## Main results

* `Tariff.Formula.Lexeme.eq_append_of_first?` — a lexeme that is found is the front of the text.
* `Tariff.Formula.cut_of_tokens` — the tokens of a text cut it.
-/

set_option autoImplicit false

namespace Tariff.Formula

open Tariff.Text

/-! ### Characters -/

/-- A digit of any script is an ASCII digit or lies beyond ASCII. -/
lemma toNat_of_isDigit {c : Char} (h : isDigit c = true) :
    48 ≤ c.toNat ∧ c.toNat ≤ 57 ∨ 128 ≤ c.toNat := by
  have hzeros : ∀ z ∈ digitZeros, z = 48 ∨ 128 ≤ z := by decide
  simp only [isDigit, digitValue?, Option.isSome_map, List.find?_isSome, Bool.and_eq_true,
    decide_eq_true_eq] at h
  obtain ⟨z, hz, hlow, hhigh⟩ := h
  rcases hzeros z hz with rfl | hz <;> omega

/-- A character that may start a name is an ASCII letter or the underscore. -/
lemma toNat_of_isNameStart {c : Char} (h : isNameStart c = true) :
    65 ≤ c.toNat ∧ c.toNat ≤ 122 := by
  have h : (decide (c.val ≥ 65 ∧ c.val ≤ 90) || (c.val ≥ 97 && c.val ≤ 122) || c == '_') = true := h
  simp only [Bool.or_eq_true, Bool.and_eq_true, decide_eq_true_eq, beq_iff_eq, ge_iff_le,
    UInt32.le_iff_toNat_le] at h
  rcases h with (h | h) | rfl
  · simp at h; omega
  · simp at h; omega
  · decide

/-- What may start a name may continue it. -/
lemma isNameChar_of_isNameStart {c : Char} (h : isNameStart c = true) : isNameChar c = true := by
  simp only [isNameStart, isNameChar, Char.isAlphanum, Bool.or_eq_true] at h ⊢
  tauto

/-- No digit of any script starts a name. -/
lemma isDigit_eq_false_of_isNameStart {c : Char} (h : isNameStart c = true) :
    isDigit c = false := by
  by_contra hc
  have h₁ := toNat_of_isNameStart h
  have h₂ := toNat_of_isDigit (by simpa using hc)
  omega

/-- What stays of a list when its front is dropped does not go on like the front. -/
lemma head?_dropWhile {α : Type} {p : α → Bool} {xs : List α} {x : α}
    (h : x ∈ (xs.dropWhile p).head?) : p x = false := by
  have := List.head?_dropWhile_not p xs
  rw [Option.mem_def.1 h] at this
  simpa using this

/-! ### Single lexemes -/

/-- A number that is found is the front of the text. It consists of digits and points, and no digit
follows it. -/
lemma firstNumber?_eq_some {cs ds : List Char} (h : firstNumber? cs = some ds) :
    ds ≠ [] ∧ (∀ c ∈ ds, isDigit c = true ∨ c = '.') ∧
      ∃ rest, cs = ds ++ rest ∧ ∀ c ∈ rest.head?, isDigit c = false := by
  have hwhole : ∀ {xs : List Char} {c : Char}, c ∈ xs.takeWhile isDigit → isDigit c = true :=
    fun hc => List.all_eq_true.1 List.all_takeWhile _ hc
  simp only [firstNumber?] at h
  split at h
  · next rest hdrop =>
    split at h
    · simp at h
    · simp only [Option.some.injEq] at h
      subst h
      refine ⟨by simp, ?_, rest.dropWhile isDigit, ?_, fun c => head?_dropWhile⟩
      · intro c hc
        simp only [List.mem_append, List.mem_cons] at hc
        rcases hc with hc | rfl | hc
        · exact .inl (hwhole hc)
        · exact .inr rfl
        · exact .inl (hwhole hc)
      · rw [List.append_assoc, List.cons_append, List.takeWhile_append_dropWhile, ← hdrop,
          List.takeWhile_append_dropWhile]
  · split at h
    · simp at h
    · next hne =>
      simp only [Option.some.injEq] at h
      subst h
      exact ⟨by simpa using hne, fun c hc => .inl (hwhole hc), cs.dropWhile isDigit,
        List.takeWhile_append_dropWhile.symm, fun c => head?_dropWhile⟩

namespace Lexeme

/-- Whether a lexeme is an operator or a punctuation mark. -/
def isMark : Lexeme → Bool
  | number _ | name _ => false
  | _ => true

/-- A mark that is found is the front of the text. -/
lemma eq_append_of_firstMark? {cs : List Char} {l : Lexeme} (h : firstMark? cs = some l) :
    l.isMark = true ∧ ∃ rest, cs = l.text.toList ++ rest := by
  unfold firstMark? at h
  split at h <;> first | (obtain rfl := Option.some.inj h; exact ⟨rfl, _, rfl⟩) | simp at h

/-- A number is found as such. -/
lemma firstNumber?_of_first? {cs : List Char} {s : String} (h : first? cs = some (.number s)) :
    firstNumber? cs = some s.toList := by
  unfold first? at h
  split at h
  · next ds hds =>
    obtain rfl : String.ofList ds = s := by simpa using h
    simpa using hds
  · split at h
    · simp at h
    · exact absurd (eq_append_of_firstMark? h).1 (by simp [isMark])

/-- A name is the run of characters that may continue one, from one that may start it. -/
lemma takeWhile_of_first? {cs : List Char} {s : String} (h : first? cs = some (.name s)) :
    cs.head?.any isNameStart = true ∧ s.toList = cs.takeWhile isNameChar := by
  unfold first? at h
  split at h
  · simp at h
  · split at h
    · next hstart =>
      obtain rfl : String.ofList (cs.takeWhile isNameChar) = s := by simpa using h
      exact ⟨hstart, by simp⟩
    · exact absurd (eq_append_of_firstMark? h).1 (by simp [isMark])

/-- A name that is found starts as names do, goes on as they do, and ends where it cannot. -/
lemma isNameStart_of_first? {s : String} {rest : List Char}
    (h : first? (s.toList ++ rest) = some (.name s)) :
    s.toList.head?.any isNameStart = true ∧ (∀ c ∈ s.toList, isNameChar c = true) ∧
      ∀ c ∈ rest.head?, isNameChar c = false := by
  obtain ⟨hstart, hs⟩ := takeWhile_of_first? h
  have hall : ∀ c ∈ s.toList, isNameChar c = true :=
    fun c hc => List.all_eq_true.1 List.all_takeWhile _ (hs ▸ hc)
  have hrest : rest.takeWhile isNameChar = [] := by
    rw [List.takeWhile_append_of_pos hall] at hs
    simpa using hs
  refine ⟨?_, hall, ?_⟩
  · cases htext : s.toList with
    | nil =>
      rw [htext, List.nil_append] at hstart
      cases rest with
      | nil => simp at hstart
      | cons c rest =>
        have hc := isNameChar_of_isNameStart (c := c) (by simpa using hstart)
        rw [List.takeWhile_cons_of_pos hc] at hrest
        simp at hrest
    | cons c cs => simpa [htext] using hstart
  · intro c hc
    cases rest with
    | nil => simp at hc
    | cons d rest =>
      obtain rfl : d = c := by simpa using hc
      cases hd : isNameChar d with
      | true => simp [List.takeWhile_cons_of_pos hd] at hrest
      | false => rfl

/-- No number and no name has a parenthesis in it. -/
lemma ne_paren_of_mem_text {cs : List Char} {l : Lexeme} (h : first? cs = some l)
    (hmark : l.isMark = false) : ∀ c ∈ l.text.toList, c ≠ '(' ∧ c ≠ ')' := by
  intro c hc
  cases l with
  | number s =>
    obtain ⟨-, hds, -⟩ := firstNumber?_eq_some (firstNumber?_of_first? h)
    rcases hds c hc with hc | rfl
    · constructor <;> rintro rfl <;> exact absurd hc (by decide)
    · decide
  | name s =>
    obtain ⟨-, hs⟩ := takeWhile_of_first? h
    have hc := List.all_eq_true.1 List.all_takeWhile _ (hs ▸ hc)
    constructor <;> rintro rfl <;> exact absurd hc (by decide)
  | _ => simp [isMark] at hmark

/-- A lexeme that is found is the front of the text. -/
lemma eq_append_of_first? {cs : List Char} {l : Lexeme} (h : first? cs = some l) :
    ∃ rest, cs = l.text.toList ++ rest := by
  unfold first? at h
  split at h
  · next ds hds =>
    obtain rfl := Option.some.inj h
    obtain ⟨-, -, rest, hcs, -⟩ := firstNumber?_eq_some hds
    exact ⟨rest, by simpa [text] using hcs⟩
  · split at h
    · obtain rfl := Option.some.inj h
      exact ⟨cs.dropWhile isNameChar, by simp [text, List.takeWhile_append_dropWhile]⟩
    · exact (eq_append_of_firstMark? h).2

/-- A lexeme that is found has a spelling. -/
lemma text_ne_empty_of_first? {cs : List Char} {l : Lexeme} (h : first? cs = some l) :
    l.text.length ≠ 0 := by
  unfold first? at h
  split at h
  · next ds hds =>
    obtain rfl := Option.some.inj h
    obtain ⟨hne, -⟩ := firstNumber?_eq_some hds
    simpa [text] using hne
  · split at h
    · next hstart =>
      obtain rfl := Option.some.inj h
      rcases cs with _ | ⟨c, cs⟩
      · simp at hstart
      · simp [text, isNameChar_of_isNameStart (by simpa using hstart)]
    · obtain ⟨hmark, -⟩ := eq_append_of_firstMark? h
      cases l with
      | operator op => cases op <;> decide
      | _ => first | decide | simp [isMark] at hmark

end Lexeme

/-! ### Whole texts -/

/-- A text that starts at a place, and its tokens: between blanks stand the lexemes that are found
from left to right. -/
inductive Cut : Nat → List Char → List Token → Prop where
  /-- no tokens are in the empty text -/
  | nil (p : Nat) : Cut p [] []
  /-- a blank is passed over -/
  | blank {p : Nat} {c : Char} {cs : List Char} {ts : List Token} :
      isBlank c = true → Cut (p + 1) cs ts → Cut p (c :: cs) ts
  /-- a lexeme is taken where no blank stands, and the text goes on after it -/
  | token {p : Nat} {l : Lexeme} {rest : List Char} {ts : List Token} :
      (∀ c ∈ l.text.toList.head?, isBlank c = false) →
      Lexeme.first? (l.text.toList ++ rest) = some l → Cut (p + l.text.length) rest ts →
      Cut p (l.text.toList ++ rest) (⟨l, p⟩ :: ts)

/-- Characters of a token that has been taken are passed over. -/
lemma tokensFrom_skip (as bs : List Char) (p : Nat) :
    tokensFrom p as.length (as ++ bs) = tokensFrom (p + as.length) 0 bs := by
  induction as generalizing p with
  | nil => simp
  | cons a as ih =>
    rw [List.cons_append, List.length_cons, tokensFrom, ih]
    congr 1
    omega

/-- Only a character that starts no lexeme keeps a text from being cut. -/
lemma eq_unexpectedCharacter_of_tokensFrom {cs : List Char} {position skip : Nat} {e : Error}
    (h : tokensFrom position skip cs = .error e) : ∃ c p, e = .unexpectedCharacter c p := by
  induction cs generalizing position skip with
  | nil => simp [tokensFrom] at h
  | cons c cs ih =>
    simp only [tokensFrom] at h
    split at h
    · exact ih h
    · split at h
      · exact ih h
      · split at h
        · obtain rfl := Except.error.inj h
          exact ⟨_, _, rfl⟩
        · exact ih (map_eq_error.1 h)

/-- The tokens of a text cut it.

**Proof sketch.** Strong induction on the length of the text. A lexeme that is found is the front of
the text (`Lexeme.eq_append_of_first?`), and its characters are passed over (`tokensFrom_skip`). -/
theorem cut_of_tokensFrom {p : Nat} {cs : List Char} {ts : List Token}
    (h : tokensFrom p 0 cs = .ok ts) : Cut p cs ts := by
  induction hn : cs.length using Nat.strongRecOn generalizing p cs ts with
  | ind n ih =>
    rcases cs with _ | ⟨c, cs⟩
    · simp only [tokensFrom, Except.ok.injEq] at h
      exact h ▸ .nil p
    simp only [tokensFrom] at h
    split at h
    · next hblank => exact .blank hblank (ih _ (by simp [← hn]) h rfl)
    · next hblank =>
      split at h
      · simp at h
      · next l hl =>
        obtain ⟨us, hus, rfl⟩ := map_eq_ok.1 h
        obtain ⟨rest, hrest⟩ := Lexeme.eq_append_of_first? hl
        have hne := Lexeme.text_ne_empty_of_first? hl
        rw [← String.length_toList] at hne
        obtain ⟨a, as, has⟩ := List.exists_cons_of_length_pos (Nat.pos_of_ne_zero hne)
        rw [hrest] at hl ⊢
        refine .token ?_ hl (ih _ ?_ ?_ rfl)
        · rw [has, List.cons_append, List.cons.injEq] at hrest
          simpa [has, ← hrest.1] using hblank
        · have := congrArg List.length hrest
          simp only [List.length_cons, List.length_append] at this hn
          omega
        · rw [has, List.cons_append, List.cons.injEq] at hrest
          rw [← String.length_toList, has] at hus ⊢
          rw [hrest.2, List.length_cons, Nat.add_sub_cancel, tokensFrom_skip] at hus
          rw [← hus, List.length_cons]
          congr 1
          omega

/-- The tokens of a text cut it. -/
theorem cut_of_tokens {cs : List Char} {ts : List Token} (h : tokens cs = .ok ts) : Cut 0 cs ts :=
  cut_of_tokensFrom h

end Tariff.Formula
