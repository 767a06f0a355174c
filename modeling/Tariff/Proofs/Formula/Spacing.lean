import Tariff.Proofs.Formula.Words

/-!
# Blanks between words

Blanks are of no account but that they separate: a text is cut up to a separator as if it ended
there, so two texts with the same words and any blanks between them are cut into the same lexemes,
or they fail at the same character.

## Main definitions

* `Tariff.Formula.isSeparator` — no lexeme goes on with a character.
* `Tariff.Formula.SameLexemes` — two sequences of tokens are the same but for the places.
* `Tariff.Formula.SameCharacter` — two errors are about the same character of two texts.
* `Tariff.Formula.Respaced` — two texts have the same words.

## Main results

* `Tariff.Formula.Lexeme.first?_append` — the lexeme at the start of a text ends at a separator.
* `Tariff.Formula.tokensFrom_append` — a text is cut up to a separator as if it ended there.
* `Tariff.Formula.Respaced.alike` — texts with the same words are cut alike.
-/

set_option autoImplicit false

namespace Tariff.Formula

open Tariff.Text

/-! ### Separators -/

/-- Whether no lexeme goes on with a character after its first one. Numbers go on with digits and
a point, names with letters, digits and the underscore, and comparisons with an equals sign. -/
def isSeparator (c : Char) : Bool :=
  !isDigit c && !isNameChar c && c != '.' && c != '='

/-- No blank is a digit. -/
lemma isDigit_eq_false_of_isBlank {c : Char} (h : isBlank c = true) : isDigit c = false := by
  have hzeros : ∀ z ∈ digitZeros, z = 0x30 ∨ 0xa0 < z ∧ z + 9 < 0x1680 ∨
      0x1680 < z ∧ z + 9 < 0x2000 ∨ 0x3000 < z := by decide
  simp only [isBlank, Bool.or_eq_true, Bool.and_eq_true, decide_eq_true_eq, beq_iff_eq] at h
  by_contra hc
  simp only [Bool.not_eq_false, isDigit, digitValue?, Option.isSome_map, List.find?_isSome,
    Bool.and_eq_true, decide_eq_true_eq] at hc
  obtain ⟨z, hz, hlow, hhigh⟩ := hc
  have := hzeros z hz
  omega

/-- Blanks separate. -/
lemma isSeparator_of_isBlank {c : Char} (h : isBlank c = true) : isSeparator c = true := by
  have hpoint : c ≠ '.' := by
    rintro rfl
    exact absurd h (by decide)
  have hequals : c ≠ '=' := by
    rintro rfl
    exact absurd h (by decide)
  simp [isSeparator, isDigit_eq_false_of_isBlank h, isNameChar_eq_false_of_isBlank h, hpoint,
    hequals]

/-! ### Texts side by side -/

section Append

variable {as bs : List Char}

/-- A run at the front of a text ends with the text if what follows cannot go on with it. -/
lemma takeWhile_append_of_head {α : Type} {p : α → Bool} {xs ys : List α}
    (h : ∀ y ∈ ys.head?, p y = false) : (xs ++ ys).takeWhile p = xs.takeWhile p := by
  induction xs with
  | nil =>
    cases ys with
    | nil => rfl
    | cons y ys => exact List.takeWhile_cons_of_neg (by simp [h y rfl])
  | cons x xs ih => simp only [List.cons_append, List.takeWhile_cons, ih]

/-- What stays after a run is followed by what cannot go on with it. -/
lemma dropWhile_append_of_head {α : Type} {p : α → Bool} {xs ys : List α}
    (h : ∀ y ∈ ys.head?, p y = false) : (xs ++ ys).dropWhile p = xs.dropWhile p ++ ys := by
  induction xs with
  | nil =>
    cases ys with
    | nil => rfl
    | cons y ys => exact List.dropWhile_cons_of_neg (by simp [h y rfl])
  | cons x xs ih =>
    simp only [List.cons_append, List.dropWhile_cons, ih]
    split <;> rfl

/-- A mark is one character, unless four of them go on with an equals sign. -/
lemma firstMark?_cons {c d : Char} (h : d = '=' → c ∉ ['<', '>', '=', '!']) (cs : List Char) :
    firstMark? (c :: d :: cs) = firstMark? [c] := by
  unfold firstMark?
  split <;> simp_all

/-- A mark shows in two characters. -/
lemma firstMark?_cons_cons (c d : Char) (cs ds : List Char) :
    firstMark? (c :: d :: cs) = firstMark? (c :: d :: ds) := by
  by_cases h : d = '=' ∧ c ∈ ['<', '>', '=', '!']
  · obtain ⟨rfl, hc⟩ := h
    simp only [List.mem_cons, List.not_mem_nil, or_false] at hc
    rcases hc with rfl | rfl | rfl | rfl <;> rfl
  · have hone : d = '=' → c ∉ ['<', '>', '=', '!'] := fun hd hc => h ⟨hd, hc⟩
    rw [firstMark?_cons hone, firstMark?_cons hone]

/-- The mark at the start of a text is the same with more after the text. -/
lemma firstMark?_append (has : as ≠ []) (hbs : ∀ b ∈ bs.head?, b ≠ '=') :
    firstMark? (as ++ bs) = firstMark? as := by
  rcases as with _ | ⟨a, _ | ⟨b, as⟩⟩
  · exact absurd rfl has
  · cases bs with
    | nil => rfl
    | cons b bs => exact firstMark?_cons (fun hb => absurd hb (hbs b rfl)) bs
  · exact firstMark?_cons_cons a b _ _

/-- The number at the start of a text is the same with more after the text. -/
lemma firstNumber?_append (hbs : ∀ b ∈ bs.head?, isDigit b = false ∧ b ≠ '.') :
    firstNumber? (as ++ bs) = firstNumber? as := by
  have hdigit : ∀ b ∈ bs.head?, isDigit b = false := fun b hb => (hbs b hb).1
  unfold firstNumber?
  rw [takeWhile_append_of_head hdigit, dropWhile_append_of_head hdigit]
  rcases as.dropWhile isDigit with _ | ⟨c, rest⟩
  · rcases bs with _ | ⟨b, bs⟩
    · rfl
    · have hb : b ≠ '.' := (hbs b rfl).2
      simp [hb]
  · by_cases hc : c = '.'
    · subst hc
      simp only [List.cons_append, takeWhile_append_of_head hdigit]
    · simp [hc]

/-- The lexeme at the start of a text is the same with more after the text, if that starts with a
separator. -/
theorem Lexeme.first?_append (has : as ≠ []) (hbs : ∀ b ∈ bs.head?, isSeparator b = true) :
    Lexeme.first? (as ++ bs) = Lexeme.first? as := by
  have hsep : ∀ b ∈ bs.head?, isDigit b = false ∧ isNameChar b = false ∧ b ≠ '.' ∧ b ≠ '=' := by
    intro b hb
    simpa [isSeparator, and_assoc] using hbs b hb
  have hhead : (as ++ bs).head? = as.head? := by
    cases as with
    | nil => exact absurd rfl has
    | cons a as => rfl
  unfold first?
  rw [firstNumber?_append fun b hb => ⟨(hsep b hb).1, (hsep b hb).2.2.1⟩, hhead,
    takeWhile_append_of_head fun b hb => (hsep b hb).2.1,
    firstMark?_append has fun b hb => (hsep b hb).2.2.2]

/-- A text is cut up to a separator as if it ended there.

**Proof sketch.** Induction on the text before the separator, with any number of characters passed
over that it has. The lexeme at a place is the same with the rest after it (`Lexeme.first?_append`)
and ends before the rest (`Lexeme.eq_append_of_first?`). -/
theorem tokensFrom_append (hbs : ∀ b ∈ bs.head?, isSeparator b = true) {p skip : Nat}
    (hskip : skip ≤ as.length) : tokensFrom p skip (as ++ bs) =
      tokensFrom p skip as >>= fun ts => (tokensFrom (p + as.length) 0 bs).map (ts ++ ·) := by
  induction as generalizing p skip with
  | nil =>
    obtain rfl : skip = 0 := by simpa using hskip
    cases h : tokensFrom p 0 bs <;> simp [tokensFrom, bind, Except.bind, Except.map, h]
  | cons a as ih =>
    have hplace : p + (a :: as).length = p + 1 + as.length := by
      rw [List.length_cons]
      omega
    rw [hplace, List.cons_append]
    cases skip with
    | succ k =>
      simp only [tokensFrom]
      exact ih (by simpa using hskip)
    | zero =>
      cases hblank : isBlank a with
      | true =>
        simp only [tokensFrom, hblank, if_true]
        exact ih (Nat.zero_le _)
      | false =>
        have hfirst : Lexeme.first? (a :: (as ++ bs)) = Lexeme.first? (a :: as) :=
          Lexeme.first?_append (List.cons_ne_nil a as) hbs
        simp only [tokensFrom, hblank, hfirst]
        cases hl : Lexeme.first? (a :: as) with
        | none => rfl
        | some l =>
          obtain ⟨rest, hrest⟩ := Lexeme.eq_append_of_first? hl
          have hlength : l.text.length - 1 ≤ as.length := by
            have := congrArg List.length hrest
            simp only [List.length_cons, List.length_append, String.length_toList] at this
            omega
          simp only [Bool.false_eq_true, if_false]
          rw [ih hlength]
          cases tokensFrom (p + 1) (l.text.length - 1) as with
          | error e => rfl
          | ok ts => cases tokensFrom (p + 1 + as.length) 0 bs <;> rfl

end Append

/-! ### The same lexemes -/

/-- Two sequences of tokens are the same but for the places of the tokens. -/
def SameLexemes (ts us : List Token) : Prop :=
  ts.map Token.lexeme = us.map Token.lexeme

namespace SameLexemes

variable {ts us ts' us' : List Token}

/-- The same lexeme may come first, at any two places. -/
lemma cons (h : SameLexemes ts us) (l : Lexeme) (p q : Nat) :
    SameLexemes (⟨l, p⟩ :: ts) (⟨l, q⟩ :: us) :=
  congrArg (l :: ·) h

/-- The same lexemes may follow. -/
lemma append (h : SameLexemes ts us) (h' : SameLexemes ts' us') :
    SameLexemes (ts ++ ts') (us ++ us') := by
  unfold SameLexemes at h h' ⊢
  rw [List.map_append, List.map_append, h, h']

/-- Of two sequences with the same lexemes both are empty, or both start with the same one. -/
lemma cases (h : SameLexemes ts us) : ts = [] ∧ us = [] ∨
    ∃ l p q ts' us', ts = ⟨l, p⟩ :: ts' ∧ us = ⟨l, q⟩ :: us' ∧ SameLexemes ts' us' := by
  rcases ts with _ | ⟨⟨l, p⟩, ts⟩ <;> rcases us with _ | ⟨⟨m, q⟩, us⟩
  · exact .inl ⟨rfl, rfl⟩
  · exact absurd h (by simp [SameLexemes])
  · exact absurd h (by simp [SameLexemes])
  · obtain ⟨hl, htail⟩ := List.cons.inj h
    obtain rfl : l = m := hl
    exact .inr ⟨l, p, q, ts, us, rfl, rfl, htail⟩

/-- Sequences with the same lexemes have the same length. -/
lemma length_eq (h : SameLexemes ts us) : ts.length = us.length := by
  simpa using congrArg List.length h

end SameLexemes

/-! ### The same character of two texts -/

/-- The characters of a text that are no blanks. -/
def solid (cs : List Char) : List Char :=
  cs.filter fun c => !isBlank c

/-- Two errors are about the same character of two texts that start at `p` and at `q`: it starts no
lexeme, and up to it the texts have the same characters, blanks left out. -/
def SameCharacter (p : Nat) (as : List Char) (q : Nat) (bs : List Char) (e e' : Error) : Prop :=
  ∃ c i j, e = .unexpectedCharacter c (p + i) ∧ e' = .unexpectedCharacter c (q + j) ∧
    as[i]? = some c ∧ bs[j]? = some c ∧ solid (as.take i) = solid (bs.take j)

namespace SameCharacter

variable {p q r : Nat} {as bs cs us vs : List Char} {e e' e'' : Error}

/-- The same character is the same one with more before it. -/
lemma append_left (huv : solid us = solid vs)
    (h : SameCharacter (p + us.length) as (q + vs.length) bs e e') :
    SameCharacter p (us ++ as) q (vs ++ bs) e e' := by
  obtain ⟨c, i, j, rfl, rfl, hi, hj, hsolid⟩ := h
  refine ⟨c, us.length + i, vs.length + j, by rw [Nat.add_assoc], by rw [Nat.add_assoc], ?_, ?_, ?_⟩
  · rw [List.getElem?_append_right (by omega), Nat.add_sub_cancel_left, hi]
  · rw [List.getElem?_append_right (by omega), Nat.add_sub_cancel_left, hj]
  · rw [List.take_length_add_append, List.take_length_add_append]
    simp only [solid, List.filter_append] at huv hsolid ⊢
    rw [huv, hsolid]

/-- The same character is the same one with more after it. -/
lemma append_right (h : SameCharacter p as q bs e e') (us vs : List Char) :
    SameCharacter p (as ++ us) q (bs ++ vs) e e' := by
  obtain ⟨c, i, j, rfl, rfl, hi, hj, hsolid⟩ := h
  obtain ⟨hilt, -⟩ := List.getElem?_eq_some_iff.1 hi
  obtain ⟨hjlt, -⟩ := List.getElem?_eq_some_iff.1 hj
  refine ⟨c, i, j, rfl, rfl, ?_, ?_, ?_⟩
  · rw [List.getElem?_append_left hilt, hi]
  · rw [List.getElem?_append_left hjlt, hj]
  · rw [List.take_append_of_le_length hilt.le, List.take_append_of_le_length hjlt.le, hsolid]

/-- The same character as the same one is the same. -/
lemma trans (h : SameCharacter p as q bs e e') (h' : SameCharacter q bs r cs e' e'') :
    SameCharacter p as r cs e e'' := by
  obtain ⟨c, i, j, rfl, rfl, hi, -, hsolid⟩ := h
  obtain ⟨c', j', k, he, rfl, -, hk, hsolid'⟩ := h'
  obtain ⟨rfl, hplace⟩ := Error.unexpectedCharacter.inj he
  obtain rfl : j = j' := Nat.add_left_cancel hplace
  exact ⟨c, i, k, rfl, rfl, hi, hk, hsolid.trans hsolid'⟩

end SameCharacter

/-- A text is cut alike wherever it starts. -/
lemma alike_tokensFrom_self (w : List Char) (p q skip : Nat) :
    Alike (SameCharacter p w q w) SameLexemes (tokensFrom p skip w) (tokensFrom q skip w) := by
  induction w generalizing p q skip with
  | nil => exact .ok rfl
  | cons c w ih =>
    have hlater : ∀ skip, Alike (SameCharacter p (c :: w) q (c :: w)) SameLexemes
        (tokensFrom (p + 1) skip w) (tokensFrom (q + 1) skip w) := fun skip =>
      (ih (p + 1) (q + 1) skip).mono fun _ _ => .append_left (rfl : solid [c] = solid [c])
    cases skip with
    | succ k => exact hlater k
    | zero =>
      simp only [tokensFrom]
      split
      · exact hlater 0
      · split
        · exact .error ⟨c, 0, 0, rfl, rfl, rfl, rfl, rfl⟩
        · exact (hlater _).map fun _ _ h => h.cons _ p q

/-! ### Texts with the same words -/

/-- Two texts have the same words: they fall into the same words, and into blanks of which both have
some or none between two words. -/
inductive Respaced : List Char → List Char → Prop where
  /-- nothing is left -/
  | nil : Respaced [] []
  /-- blanks come first -/
  | blanks {us vs as bs : List Char} : us.all isBlank = true → vs.all isBlank = true →
      Respaced as bs → Respaced (us ++ as) (vs ++ bs)
  /-- a word comes first, which ends in both -/
  | word (w : List Char) {as bs : List Char} : (∀ a ∈ as.head?, isBlank a = true) →
      (∀ b ∈ bs.head?, isBlank b = true) → Respaced as bs → Respaced (w ++ as) (w ++ bs)

/-- Blanks are passed over. -/
lemma tokensFrom_append_of_isBlank {us : List Char} (hus : us.all isBlank = true) (p : Nat)
    (as : List Char) : tokensFrom p 0 (us ++ as) = tokensFrom (p + us.length) 0 as := by
  induction us generalizing p with
  | nil => rfl
  | cons u us ih =>
    rw [List.all_cons, Bool.and_eq_true] at hus
    rw [List.cons_append, tokensFrom, hus.1, if_pos rfl, ih hus.2, List.length_cons]
    congr 1
    omega

/-- **Texts with the same words are cut alike**: into the same lexemes, or they fail at the same
character.

**Proof sketch.** Induction on the words. Blanks are passed over, and a word is cut apart from what
follows (`tokensFrom_append`), since a blank follows or the text ends. -/
theorem Respaced.alike {as bs : List Char} (h : Respaced as bs) (p q : Nat) :
    Alike (SameCharacter p as q bs) SameLexemes (tokensFrom p 0 as) (tokensFrom q 0 bs) := by
  induction h generalizing p q with
  | nil => exact alike_tokensFrom_self [] p q 0
  | @blanks us vs as bs hus hvs _ ih =>
    have hsolid : ∀ {ws : List Char}, ws.all isBlank = true → solid ws = [] := by
      intro ws hws
      simpa [solid] using hws
    rw [tokensFrom_append_of_isBlank hus, tokensFrom_append_of_isBlank hvs]
    exact (ih _ _).mono fun _ _ =>
      SameCharacter.append_left ((hsolid hus).trans (hsolid hvs).symm)
  | @word w as bs has hbs _ ih =>
    rw [tokensFrom_append (fun a ha => isSeparator_of_isBlank (has a ha)) (Nat.zero_le _),
      tokensFrom_append (fun b hb => isSeparator_of_isBlank (hbs b hb)) (Nat.zero_le _)]
    have hword := (alike_tokensFrom_self w p q 0).mono fun _ _ h => h.append_right as bs
    refine hword.bind fun ts us hts => ?_
    have hrest := (ih (p + w.length) (q + w.length)).mono fun _ _ => SameCharacter.append_left rfl
    exact hrest.map fun _ _ hothers => hts.append hothers

end Tariff.Formula
