import Tariff.Proofs.Formula.Spelling

/-!
# Texts read from the left

A text is cut into tokens by taking the longest lexeme wherever one starts and passing over blanks,
from the left on. It cannot be cut if a place is reached where a character stands that is no blank
and starts no lexeme, and that place is the error. So the tokens keep all of the text but its
blanks, and the texts of the tokens with single blanks between them are cut into the same lexemes
again.

## Main definitions

* `Tariff.Formula.Greedy` — the longest lexemes of a text up to a place.
* `Tariff.Formula.IsStuck` — neither a lexeme nor a blank starts a text.
* `Tariff.Formula.IsCutInto` — how the tokens of a text lie in it.
* `Tariff.Formula.HasLexemes` — a text is cut into some lexemes.
* `Tariff.Formula.spaced` — the texts of some lexemes with single blanks between them.

## Main results

* `Tariff.Formula.tokens_eq_ok_iff`, `Tariff.Formula.tokens_eq_error_iff` — which texts are cut, and
  where the others are not.
* `Tariff.Formula.Greedy.isCutInto` — how the tokens lie in the text.
* `Tariff.Formula.tokens_longest_match` — all of it.
-/

set_option autoImplicit false

namespace Tariff.Formula

open Tariff.Text

variable {p q : Nat} {c : Char} {cs rest : List Char} {ts : List Token} {l : Lexeme}
  {ls ms : List Lexeme}

/-! ### From one place to another -/

/-- From the place `p`, where `cs` stands, the longest lexemes are taken and blanks are passed over
up to the place `q`, where `rest` stands. -/
inductive Greedy : Nat → List Char → List Token → Nat → List Char → Prop where
  /-- the place is reached -/
  | done (p : Nat) (cs : List Char) : Greedy p cs [] p cs
  /-- a blank is passed over -/
  | blank {p q : Nat} {c : Char} {cs rest : List Char} {ts : List Token} :
      isBlank c = true → Greedy (p + 1) cs ts q rest → Greedy p (c :: cs) ts q rest
  /-- the longest lexeme is taken -/
  | lexeme {p q : Nat} {l : Lexeme} {cs rest : List Char} {ts : List Token} :
      l.IsLongest (l.text.toList ++ cs) → Greedy (p + l.text.length) cs ts q rest →
      Greedy p (l.text.toList ++ cs) (⟨l, p⟩ :: ts) q rest

/-- Whether a text starts with a character that is no blank and starts no lexeme. -/
def IsStuck (cs : List Char) : Prop :=
  (∃ c ∈ cs.head?, isBlank c = false) ∧ ∀ l : Lexeme, ¬ l.Starts cs

/-- Every text is read to its end or to a place where nothing can be read.

**Proof sketch.** Strong induction on the length of the text. The lexeme that is found is the
longest one (`Lexeme.first?_eq_some_iff`), and the text after it is shorter. -/
lemma exists_greedy (p : Nat) (cs : List Char) :
    ∃ ts q rest, Greedy p cs ts q rest ∧ (rest = [] ∨ IsStuck rest) := by
  induction hn : cs.length using Nat.strongRecOn generalizing p cs with
  | ind n ih =>
    rcases cs with _ | ⟨c, cs⟩
    · exact ⟨[], p, [], .done p [], .inl rfl⟩
    cases hblank : isBlank c with
    | true =>
      obtain ⟨ts, q, rest, hread, hrest⟩ := ih cs.length (by simp [← hn]) (p + 1) cs rfl
      exact ⟨ts, q, rest, .blank hblank hread, hrest⟩
    | false =>
      cases hfirst : Lexeme.first? (c :: cs) with
      | none =>
        have hstuck : IsStuck (c :: cs) := ⟨⟨c, rfl, hblank⟩, Lexeme.first?_eq_none_iff.1 hfirst⟩
        exact ⟨[], p, c :: cs, .done p _, .inr hstuck⟩
      | some l =>
        obtain ⟨after, hafter⟩ := Lexeme.eq_append_of_first? hfirst
        have hshorter : after.length < n := by
          have hne := Lexeme.text_ne_empty_of_first? hfirst
          rw [← hn, hafter, List.length_append, String.length_toList]
          omega
        obtain ⟨ts, q, rest, hread, hrest⟩ := ih after.length hshorter (p + l.text.length) after rfl
        rw [hafter] at hfirst ⊢
        exact ⟨_, q, rest, .lexeme (Lexeme.first?_eq_some_iff.1 hfirst) hread, hrest⟩

namespace Greedy

/-- What is read from the left is cut off the front. -/
lemma tokensFrom_eq (h : Greedy p cs ts q rest) :
    tokensFrom p 0 cs = (tokensFrom q 0 rest).map (ts ++ ·) := by
  induction h with
  | done p cs => cases h : tokensFrom p 0 cs <;> simp [Except.map]
  | @blank p q c cs rest ts hblank _ ih =>
    rw [tokensFrom, hblank, if_pos rfl, ih]
  | @lexeme p q l cs rest ts hlongest _ ih =>
    rw [tokensFrom_of_first? (Lexeme.first?_eq_some_iff.2 hlongest), ih]
    cases tokensFrom q 0 rest <;> rfl

/-- The place that is reached counts the characters before it. -/
lemma place_eq (h : Greedy p cs ts q rest) : p + cs.length = q + rest.length := by
  induction h with
  | done => rfl
  | blank _ _ ih =>
    rw [List.length_cons]
    omega
  | lexeme _ _ ih =>
    rw [List.length_append, String.length_toList]
    omega

end Greedy

/-- Where nothing can be read the text is not cut. -/
lemma IsStuck.tokensFrom_eq (h : IsStuck (c :: cs)) (p : Nat) :
    tokensFrom p 0 (c :: cs) = .error (.unexpectedCharacter c p) := by
  obtain ⟨⟨d, hd, hblank⟩, hnone⟩ := h
  obtain rfl : c = d := by simpa using hd
  rw [tokensFrom, hblank, Lexeme.first?_eq_none_iff.2 hnone]
  rfl

/-- A text is cut into the tokens that are read from the left to its end. -/
theorem tokens_eq_ok_iff : tokens cs = .ok ts ↔ Greedy 0 cs ts cs.length [] := by
  constructor
  · intro h
    obtain ⟨us, q, rest, hread, rfl | hstuck⟩ := exists_greedy 0 cs
    · rw [tokens, hread.tokensFrom_eq] at h
      obtain rfl : us = ts := by simpa [tokensFrom, Except.map] using h
      obtain rfl : cs.length = q := by simpa using hread.place_eq
      exact hread
    · rw [tokens, hread.tokensFrom_eq] at h
      obtain ⟨⟨c, hc, -⟩, -⟩ := id hstuck
      obtain ⟨rest, rfl⟩ := List.head?_eq_some_iff.1 hc
      simp [hstuck.tokensFrom_eq, Except.map] at h
  · intro h
    rw [tokens, h.tokensFrom_eq]
    simp [tokensFrom, Except.map]

/-- A text is not cut iff, read from the left, it reaches a place where nothing can be read. That
place is the error. -/
theorem tokens_eq_error_iff {e : Error} : tokens cs = .error e ↔
    ∃ ts q c rest, Greedy 0 cs ts q (c :: rest) ∧ IsStuck (c :: rest) ∧
      e = .unexpectedCharacter c q := by
  constructor
  · intro h
    obtain ⟨us, q, rest, hread, rfl | hstuck⟩ := exists_greedy 0 cs
    · rw [tokens, hread.tokensFrom_eq] at h
      simp [tokensFrom, Except.map] at h
    · rw [tokens, hread.tokensFrom_eq] at h
      obtain ⟨⟨c, hc, -⟩, -⟩ := id hstuck
      obtain ⟨rest, rfl⟩ := List.head?_eq_some_iff.1 hc
      rw [hstuck.tokensFrom_eq] at h
      exact ⟨us, q, c, rest, hread, hstuck, (Except.error.inj h).symm⟩
  · rintro ⟨us, q, c, rest, hread, hstuck, rfl⟩
    rw [tokens, hread.tokensFrom_eq, hstuck.tokensFrom_eq]
    rfl

/-! ### How the tokens lie in the text -/

/-- The place where the text goes on after a token. -/
def Token.stop (t : Token) : Nat :=
  t.position + t.lexeme.text.length

/-- How the tokens of a text lie in it. The end of the text counts as a last place. -/
structure IsCutInto (cs : List Char) (ts : List Token) : Prop where
  /-- the text of a token stands at its place -/
  slice : ∀ t ∈ ts, (cs.drop t.position).take t.lexeme.text.length = t.lexeme.text.toList
  /-- no longer lexeme stands at the place of a token -/
  longest : ∀ t ∈ ts, t.lexeme.IsLongest (cs.drop t.position)
  /-- the places are in order, and the end of the text comes last -/
  increasing : (ts.map Token.position ++ [cs.length]).Pairwise (· < ·)
  /-- a token ends before the next one starts -/
  apart : ts.Pairwise fun t u => t.stop ≤ u.position
  /-- everything between the tokens, before and after them is blank -/
  blank : ∀ i c, cs[i]? = some c → (∀ t ∈ ts, i < t.position ∨ t.stop ≤ i) → isBlank c = true

namespace Greedy

/-- The text falls apart at each token that is read. -/
lemma exists_split (h : Greedy p cs ts q rest) : ∀ t ∈ ts, ∃ before after,
    cs = before ++ after ∧ t.position = p + before.length ∧ t.lexeme.IsLongest after := by
  induction h with
  | done => simp
  | @blank p q c cs rest ts _ _ ih =>
    intro t ht
    obtain ⟨before, after, rfl, hplace, hlongest⟩ := ih t ht
    exact ⟨c :: before, after, rfl, by rw [hplace, List.length_cons]; omega, hlongest⟩
  | @lexeme p q l cs rest ts hlongest _ ih =>
    intro t ht
    rcases List.mem_cons.1 ht with rfl | ht
    · exact ⟨[], _, rfl, rfl, hlongest⟩
    · obtain ⟨before, after, rfl, hplace, hlater⟩ := ih t ht
      refine ⟨l.text.toList ++ before, after, (List.append_assoc _ _ _).symm, ?_, hlater⟩
      rw [hplace, List.length_append, String.length_toList, Nat.add_assoc]

/-- The place that is reached comes later. -/
lemma le_place (h : Greedy p cs ts q rest) : p ≤ q := by
  induction h with
  | done => exact le_rfl
  | blank _ _ ih => omega
  | lexeme _ _ ih => omega

/-- A token that is read ends before the place that is reached. -/
lemma bounds (h : Greedy p cs ts q rest) : ∀ t ∈ ts, p ≤ t.position ∧ t.stop ≤ q := by
  induction h with
  | done => simp
  | blank _ _ ih =>
    intro t ht
    have := ih t ht
    omega
  | @lexeme p q l cs rest ts _ hread ih =>
    intro t ht
    rcases List.mem_cons.1 ht with rfl | ht
    · exact ⟨le_rfl, hread.le_place⟩
    · have := ih t ht
      omega

/-- A token that is read ends before the next one starts. -/
lemma apart (h : Greedy p cs ts q rest) : ts.Pairwise fun t u => t.stop ≤ u.position := by
  induction h with
  | done => exact .nil
  | blank _ _ ih => exact ih
  | lexeme _ hread ih => exact .cons (fun u hu => (hread.bounds u hu).1) ih

/-- What is read and belongs to no token is blank. -/
lemma isBlank_of_outside (h : Greedy p cs ts q rest) : ∀ i c, cs[i]? = some c → p + i < q →
    (∀ t ∈ ts, p + i < t.position ∨ t.stop ≤ p + i) → isBlank c = true := by
  induction h with
  | done =>
    intro i c _ hi
    omega
  | @blank p q c cs rest ts hblank _ ih =>
    intro i d hd hi hout
    cases i with
    | zero =>
      obtain rfl : c = d := by simpa using hd
      exact hblank
    | succ i =>
      have hplace : p + (i + 1) = p + 1 + i := by omega
      rw [hplace] at hi hout
      exact ih i d (by simpa using hd) hi hout
  | @lexeme p q l cs rest ts _ _ ih =>
    intro i d hd hi hout
    have hstop := (hout ⟨l, p⟩ List.mem_cons_self).resolve_left (by simp)
    obtain ⟨j, rfl⟩ : ∃ j, i = l.text.length + j := ⟨i - l.text.length, by
      simp only [Token.stop] at hstop
      omega⟩
    rw [← Nat.add_assoc] at hi hout
    rw [← String.length_toList, List.getElem?_append_right (by omega),
      Nat.add_sub_cancel_left] at hd
    exact ih j d hd hi fun t ht => hout t (List.mem_cons_of_mem _ ht)

/-- The tokens that are read from a text lie in it one after the other. -/
theorem isCutInto (h : Greedy 0 cs ts cs.length []) : IsCutInto cs ts where
  slice := by
    intro t ht
    obtain ⟨before, after, rfl, hplace, ⟨⟨-, rest, rfl⟩, -⟩⟩ := h.exists_split t ht
    rw [Nat.zero_add] at hplace
    rw [hplace, List.drop_left, ← String.length_toList, List.take_left]
  longest := by
    intro t ht
    obtain ⟨before, after, rfl, hplace, hlongest⟩ := h.exists_split t ht
    rw [Nat.zero_add] at hplace
    rwa [hplace, List.drop_left]
  increasing := by
    have hstop : ∀ t ∈ ts, t.position < t.stop := by
      intro t ht
      obtain ⟨_, _, -, -, hlongest⟩ := h.exists_split t ht
      have := Lexeme.text_ne_empty_of_first? (Lexeme.first?_eq_some_iff.2 hlongest)
      rw [Token.stop]
      omega
    refine List.pairwise_append.2 ⟨?_, List.pairwise_singleton _ _, ?_⟩
    · rw [List.pairwise_map]
      exact h.apart.imp_of_mem fun ht _ hle => (hstop _ ht).trans_le hle
    · rintro _ hplace _ hend
      obtain ⟨t, ht, rfl⟩ := List.mem_map.1 hplace
      obtain rfl := List.mem_singleton.1 hend
      exact (hstop t ht).trans_le (h.bounds t ht).2
  apart := h.apart
  blank := by
    intro i c hc hout
    have hi := (List.getElem?_eq_some_iff.1 hc).1
    exact h.isBlank_of_outside i c hc (by omega) (by simpa using hout)

end Greedy

/-! ### The lexemes of a text -/

/-- Whether a text is cut into some lexemes, wherever it starts. -/
def HasLexemes (cs : List Char) (ls : List Lexeme) : Prop :=
  ∀ p, ∃ ts, tokensFrom p 0 cs = .ok ts ∧ ts.map Token.lexeme = ls

/-- A text is cut alike wherever it starts. -/
lemma hasLexemes_iff : HasLexemes cs ls ↔ ∃ ts, tokens cs = .ok ts ∧ ts.map Token.lexeme = ls := by
  constructor
  · intro h
    exact h 0
  · rintro ⟨ts, hts, rfl⟩ p
    have halike := alike_tokensFrom_self cs 0 p 0
    rw [← tokens, hts] at halike
    obtain ⟨us, hus, hsame⟩ := halike.exists_eq_ok
    exact ⟨us, hus, hsame.symm⟩

namespace HasLexemes

/-- There is nothing in the empty text. -/
lemma nil : HasLexemes [] [] :=
  fun _ => ⟨[], rfl, rfl⟩

/-- A blank is passed over. -/
lemma blank (hblank : isBlank c = true) (h : HasLexemes cs ls) : HasLexemes (c :: cs) ls := by
  intro p
  obtain ⟨ts, hts, hls⟩ := h (p + 1)
  exact ⟨ts, by rw [tokensFrom, hblank, if_pos rfl, hts], hls⟩

/-- A lexeme that is found comes first. -/
lemma cons (hl : Lexeme.first? (l.text.toList ++ cs) = some l) (h : HasLexemes cs ls) :
    HasLexemes (l.text.toList ++ cs) (l :: ls) := by
  intro p
  obtain ⟨ts, hts, rfl⟩ := h (p + l.text.length)
  exact ⟨⟨l, p⟩ :: ts, by rw [tokensFrom_of_first? hl, hts]; rfl, rfl⟩

/-- Two texts side by side have the lexemes of both, if the second one starts with a separator. -/
lemma append {as bs : List Char} (hsep : ∀ b ∈ bs.head?, isSeparator b = true)
    (has : HasLexemes as ls) (hbs : HasLexemes bs ms) : HasLexemes (as ++ bs) (ls ++ ms) := by
  intro p
  obtain ⟨ts, hts, rfl⟩ := has p
  obtain ⟨us, hus, rfl⟩ := hbs (p + as.length)
  refine ⟨ts ++ us, ?_, List.map_append⟩
  rw [tokensFrom_append hsep (Nat.zero_le _), hts, hus]
  rfl

/-- A lexeme that is spelled is that of its text. -/
lemma of_isSpelled (h : l.IsSpelled) : HasLexemes l.text.toList [l] :=
  fun p => ⟨[⟨l, p⟩], h.tokensFrom_text p, rfl⟩

end HasLexemes

/-- The texts of some lexemes with single blanks between them. -/
def spaced (ls : List Lexeme) : List Char :=
  [' '].intercalate (ls.map fun l => l.text.toList)

/-- The texts of lexemes with blanks between them are cut into the lexemes. -/
theorem hasLexemes_spaced (h : ∀ l ∈ ls, l.IsSpelled) : HasLexemes (spaced ls) ls := by
  induction ls with
  | nil => exact .nil
  | cons l ls ih =>
    obtain ⟨hl, hls⟩ := List.forall_mem_cons.1 h
    cases ls with
    | nil => simpa [spaced] using HasLexemes.of_isSpelled hl
    | cons m ls =>
      have hrest : HasLexemes (' ' :: spaced (m :: ls)) (m :: ls) := (ih hls).blank (by decide)
      have hsep : ∀ b ∈ (' ' :: spaced (m :: ls)).head?, isSeparator b = true := by
        intro b hb
        obtain rfl := Option.some.inj hb
        decide
      simpa [spaced] using HasLexemes.append hsep (.of_isSpelled hl) hrest

/-- **A text is cut into its longest lexemes, and nothing of it is lost.** It has tokens iff it can
be read from the left to its end by taking longest lexemes and passing over blanks; else the error
is the first place where neither a lexeme nor a blank starts. The tokens lie in the text in order,
each the longest lexeme at its place, with blanks between them only. Their texts with single blanks
between them are cut into the same lexemes. -/
theorem tokens_longest_match (cs : List Char) :
    (∀ ts, tokens cs = .ok ts ↔ Greedy 0 cs ts cs.length []) ∧
    (∀ e, tokens cs = .error e ↔ ∃ ts q c rest, Greedy 0 cs ts q (c :: rest) ∧
      IsStuck (c :: rest) ∧ e = .unexpectedCharacter c q) ∧
    ∀ ts, tokens cs = .ok ts → IsCutInto cs ts ∧
      ∃ us, tokens (spaced (ts.map Token.lexeme)) = .ok us ∧
        us.map Token.lexeme = ts.map Token.lexeme := by
  refine ⟨fun _ => tokens_eq_ok_iff, fun _ => tokens_eq_error_iff, fun ts hts => ?_⟩
  have hcut := (tokens_eq_ok_iff.1 hts).isCutInto
  have hspelled : ∀ l ∈ ts.map Token.lexeme, l.IsSpelled := by
    intro l hl
    obtain ⟨t, ht, rfl⟩ := List.mem_map.1 hl
    exact (hcut.longest t ht).1.1
  exact ⟨hcut, hasLexemes_iff.1 (hasLexemes_spaced hspelled)⟩

/-- Numbers with a point, a mark of two characters and a name, with nothing between them. -/
theorem tokens_longest_match_adjacent :
    ∃ ts, tokens "1.5<=.5x ".toList = .ok ts ∧ ts.map Token.position = [0, 3, 5, 7] ∧
      IsCutInto "1.5<=.5x ".toList ts ∧
      ∃ us, tokens (spaced (ts.map Token.lexeme)) = .ok us ∧
        us.map Token.lexeme = ts.map Token.lexeme :=
  ⟨_, rfl, rfl, (tokens_longest_match _).2.2 _ rfl⟩

end Tariff.Formula
