import Mathlib.Data.List.TakeWhile
import Tariff.Proofs.Formula.Spacing

/-!
# How lexemes are spelled

Which texts are numbers, names and marks is laid down here by rules, without reference to how they
are found. What is found at the start of a text is the longest lexeme that is spelled there, and
something is found iff any is.

## Main definitions

* `Tariff.Formula.IsNumeral`, `Tariff.Formula.IsName` — the texts of numbers and names.
* `Tariff.Formula.Lexeme.IsSpelled` — a lexeme has a text of its kind.
* `Tariff.Formula.Lexeme.Starts` — a text starts with a lexeme.
* `Tariff.Formula.Lexeme.IsLongest` — no longer lexeme starts a text.

## Main results

* `Tariff.Formula.Lexeme.first?_text` — a lexeme is found in its own text.
* `Tariff.Formula.Lexeme.first?_eq_some_iff` — what is found is the longest lexeme.
* `Tariff.Formula.Lexeme.first?_eq_none_iff` — nothing is found where no lexeme starts.
-/

set_option autoImplicit false

namespace Tariff.Formula

open Tariff.Text

/-! ### The texts of lexemes -/

/-- The texts of numbers. -/
inductive IsNumeral : List Char → Prop where
  /-- digits -/
  | whole {ds : List Char} : ds ≠ [] → (∀ c ∈ ds, isDigit c = true) → IsNumeral ds
  /-- digits, a point, and more digits or none -/
  | decimal {ds es : List Char} : ds ≠ [] → (∀ c ∈ ds, isDigit c = true) →
      (∀ c ∈ es, isDigit c = true) → IsNumeral (ds ++ '.' :: es)
  /-- a point with digits after it -/
  | fraction {es : List Char} : es ≠ [] → (∀ c ∈ es, isDigit c = true) → IsNumeral ('.' :: es)

/-- The texts that are one name. -/
structure IsName (s : String) : Prop where
  /-- a name starts with a letter or an underscore -/
  start : s.toList.head?.any isNameStart = true
  /-- a name goes on with letters, digits and underscores -/
  chars : ∀ c ∈ s.toList, isNameChar c = true

namespace Lexeme

/-- Whether a lexeme has a text of its kind. A mark is spelled in one way only. -/
def IsSpelled : Lexeme → Prop
  | number digits => IsNumeral digits.toList
  | name s => IsName s
  | _ => True

/-- Whether a text starts with a lexeme. -/
def Starts (l : Lexeme) (cs : List Char) : Prop :=
  l.IsSpelled ∧ l.text.toList <+: cs

/-- Whether a lexeme is the longest one that starts a text. -/
def IsLongest (l : Lexeme) (cs : List Char) : Prop :=
  l.Starts cs ∧ ∀ l' : Lexeme, l'.Starts cs → l'.text.length ≤ l.text.length

end Lexeme

/-! ### What is found is spelled -/

/-- A number that is found is one. -/
lemma isNumeral_of_firstNumber? {cs ds : List Char} (h : firstNumber? cs = some ds) :
    IsNumeral ds := by
  have hdigits : ∀ {xs : List Char}, ∀ c ∈ xs.takeWhile isDigit, isDigit c = true :=
    fun c hc => List.all_eq_true.1 List.all_takeWhile c hc
  simp only [firstNumber?] at h
  split at h
  · next rest _ =>
    split at h
    · simp at h
    · next hne =>
      obtain rfl := Option.some.inj h
      cases hwhole : cs.takeWhile isDigit with
      | nil =>
        refine .fraction ?_ hdigits
        simpa [hwhole] using hne
      | cons d ds => exact .decimal (by simp) (hwhole ▸ hdigits) hdigits
  · split at h
    · simp at h
    · next hne =>
      obtain rfl := Option.some.inj h
      exact .whole (by simpa using hne) hdigits

namespace Lexeme

variable {cs : List Char} {l : Lexeme}

/-- A lexeme that is found is spelled. -/
lemma isSpelled_of_first? (h : first? cs = some l) : l.IsSpelled := by
  cases l with
  | number digits => exact isNumeral_of_firstNumber? (firstNumber?_of_first? h)
  | name s =>
    obtain ⟨rest, rfl⟩ := eq_append_of_first? h
    obtain ⟨hstart, hchars, -⟩ := isNameStart_of_first? h
    exact ⟨hstart, hchars⟩
  | _ => trivial

/-- A text starts with the lexeme that is found. -/
lemma starts_of_first? (h : first? cs = some l) : l.Starts cs := by
  obtain ⟨rest, hrest⟩ := eq_append_of_first? h
  exact ⟨isSpelled_of_first? h, rest, hrest.symm⟩

end Lexeme

/-! ### What is spelled is found -/

/-- Where a number is spelled a number is found, which may go on further. -/
lemma IsNumeral.exists_firstNumber? {ds : List Char} (h : IsNumeral ds) (rest : List Char) :
    ∃ es, firstNumber? (ds ++ rest) = some (ds ++ es) := by
  have hpoint : isDigit '.' = false := by decide
  cases h with
  | whole hne hdigits =>
    unfold firstNumber?
    rw [List.takeWhile_append_of_pos hdigits, List.dropWhile_append_of_pos hdigits]
    split
    · exact ⟨rest.takeWhile isDigit ++ '.' :: List.takeWhile isDigit _, by simp [hne]; rfl⟩
    · exact ⟨rest.takeWhile isDigit, by simp [hne]⟩
  | @decimal ds es hne hds hes =>
    refine ⟨rest.takeWhile isDigit, ?_⟩
    rw [List.append_assoc, List.cons_append, firstNumber?, List.takeWhile_append_of_pos hds,
      List.dropWhile_append_of_pos hds, List.takeWhile_cons_of_neg (by simp [hpoint]),
      List.dropWhile_cons_of_neg (by simp [hpoint])]
    simp [hne, List.takeWhile_append_of_pos hes]
  | @fraction es hne hes =>
    refine ⟨rest.takeWhile isDigit, ?_⟩
    rw [List.cons_append, firstNumber?, List.takeWhile_cons_of_neg (by simp [hpoint]),
      List.dropWhile_cons_of_neg (by simp [hpoint])]
    simp [hne, List.takeWhile_append_of_pos hes]

/-- No number is found where neither a digit nor a point stands. -/
lemma firstNumber?_eq_none {c : Char} (hdigit : isDigit c = false) (hpoint : c ≠ '.')
    (cs : List Char) : firstNumber? (c :: cs) = none := by
  simp [firstNumber?, hdigit, hpoint]

/-- A name is not empty. -/
lemma IsName.exists_cons {s : String} (h : IsName s) :
    ∃ c cs, s.toList = c :: cs ∧ isNameStart c = true := by
  have hstart := h.start
  cases hs : s.toList with
  | nil => simp [hs] at hstart
  | cons c cs => exact ⟨c, cs, rfl, by simpa [hs] using hstart⟩

/-- Where a mark of one character stands a mark is found, which may go on with an equals sign. -/
lemma exists_firstMark?_cons {c : Char} {l : Lexeme} (h : firstMark? [c] = some l)
    (rest : List Char) :
    ∃ l', firstMark? (c :: rest) = some l' ∧ l.text.length ≤ l'.text.length := by
  cases rest with
  | nil => exact ⟨l, h, le_rfl⟩
  | cons d rest =>
    by_cases hd : d = '=' ∧ c ∈ ['<', '>', '=', '!']
    · obtain ⟨rfl, hc⟩ := hd
      simp only [List.mem_cons, List.not_mem_nil, or_false] at hc
      rcases hc with rfl | rfl | rfl | rfl
      · obtain rfl := Option.some.inj h
        exact ⟨_, rfl, by decide⟩
      · obtain rfl := Option.some.inj h
        exact ⟨_, rfl, by decide⟩
      · cases h
      · cases h
    · exact ⟨l, by rw [firstMark?_cons fun hd' hc => hd ⟨hd', hc⟩, h], le_rfl⟩

namespace Lexeme

variable {cs : List Char} {l l' : Lexeme}

/-- Where neither a number nor a name starts, a mark is looked for. -/
lemma first?_eq_firstMark? {c : Char} (hdigit : isDigit c = false) (hpoint : c ≠ '.')
    (hstart : isNameStart c = false) (cs : List Char) :
    first? (c :: cs) = firstMark? (c :: cs) := by
  simp [first?, firstNumber?_eq_none hdigit hpoint, hstart]

/-- Where a name may start, its run of characters is found. -/
lemma first?_of_isNameStart {c : Char} (h : isNameStart c = true) (cs : List Char) :
    first? (c :: cs) = some (.name (String.ofList ((c :: cs).takeWhile isNameChar))) := by
  have hpoint : c ≠ '.' := by
    rintro rfl
    exact absurd h (by decide)
  rw [first?, firstNumber?_eq_none (isDigit_eq_false_of_isNameStart h) hpoint]
  simp [h]

/-- Where a mark is spelled a mark is found, which may go on with an equals sign. -/
lemma exists_first?_of_isMark (h : l.isMark = true) (rest : List Char) :
    ∃ l', first? (l.text.toList ++ rest) = some l' ∧ l.text.length ≤ l'.text.length := by
  obtain ⟨c, cs, hcs, hdigit, hpoint, hstart⟩ : ∃ c cs, l.text.toList = c :: cs ∧
      isDigit c = false ∧ c ≠ '.' ∧ isNameStart c = false := by
    cases l with
    | number | name => simp [isMark] at h
    | operator op => cases op <;> exact ⟨_, _, rfl, by decide, by decide, by decide⟩
    | _ => exact ⟨_, _, rfl, by decide, by decide, by decide⟩
  rw [hcs, List.cons_append, first?_eq_firstMark? hdigit hpoint hstart, ← List.cons_append, ← hcs]
  cases l with
  | number | name => simp [isMark] at h
  | operator op =>
    cases op with
    | le | ge | eq | ne => exact ⟨_, rfl, le_rfl⟩
    | _ => exact exists_firstMark?_cons rfl rest
  | _ => exact exists_firstMark?_cons rfl rest

/-- Where a lexeme is spelled a lexeme is found, which is at least as long. -/
lemma IsSpelled.exists_first? (h : l.IsSpelled) (rest : List Char) :
    ∃ l', first? (l.text.toList ++ rest) = some l' ∧ l.text.length ≤ l'.text.length := by
  cases l with
  | number digits =>
    obtain ⟨es, hes⟩ := IsNumeral.exists_firstNumber? h rest
    refine ⟨.number (String.ofList (digits.toList ++ es)), ?_, ?_⟩
    · simp only [text, first?, hes]
    · simp [text]
  | name s =>
    have h : IsName s := h
    obtain ⟨c, cs, hs, hc⟩ := h.exists_cons
    refine ⟨.name (String.ofList (s.toList ++ rest.takeWhile isNameChar)), ?_, ?_⟩
    · rw [text, hs, List.cons_append, first?_of_isNameStart hc, ← List.cons_append, ← hs,
        List.takeWhile_append_of_pos h.chars]
    · simp [text]
  | _ => exact exists_first?_of_isMark rfl rest

/-- A lexeme is found in its own text. -/
theorem first?_text (h : l.IsSpelled) : first? l.text.toList = some l := by
  cases l with
  | number digits =>
    obtain ⟨es, hes⟩ := IsNumeral.exists_firstNumber? h []
    obtain ⟨-, -, rest, hrest, -⟩ := firstNumber?_eq_some hes
    obtain ⟨rfl, -⟩ : es = [] ∧ rest = [] := by simpa using hrest
    rw [List.append_nil] at hes
    simp [text, first?, hes]
  | name s =>
    have h : IsName s := h
    obtain ⟨c, cs, hs, hc⟩ := h.exists_cons
    rw [text, hs, first?_of_isNameStart hc, ← hs, List.takeWhile_eq_self_iff.2 h.chars,
      String.ofList_toList]
  | operator op => cases op <;> rfl
  | _ => rfl

/-- **What is found is the longest lexeme.** -/
theorem first?_eq_some_iff : first? cs = some l ↔ l.IsLongest cs := by
  constructor
  · intro h
    refine ⟨starts_of_first? h, ?_⟩
    rintro l' ⟨hl', rest, rfl⟩
    obtain ⟨m, hm, hle⟩ := hl'.exists_first? rest
    obtain rfl : m = l := Option.some.inj (hm.symm.trans h)
    exact hle
  · rintro ⟨⟨hl, rest, rfl⟩, hlongest⟩
    obtain ⟨m, hm, hle⟩ := hl.exists_first? rest
    have hstarts := starts_of_first? hm
    -- both are fronts of the text, and equally long
    have hprefix : l.text.toList <+: m.text.toList :=
      List.prefix_of_prefix_length_le (List.prefix_append _ _) hstarts.2 hle
    have htext : l.text.toList = m.text.toList :=
      hprefix.eq_of_length_le (hlongest m hstarts)
    have hsame := first?_text hl
    rw [htext, first?_text hstarts.1] at hsame
    rw [hm, hsame]

/-- **Nothing is found where no lexeme starts.** -/
theorem first?_eq_none_iff : first? cs = none ↔ ∀ l : Lexeme, ¬ l.Starts cs := by
  constructor
  · rintro h l ⟨hl, rest, rfl⟩
    obtain ⟨m, hm, -⟩ := hl.exists_first? rest
    simp [hm] at h
  · intro h
    cases hfirst : first? cs with
    | none => rfl
    | some l => exact absurd (starts_of_first? hfirst) (h l)

/-- No lexeme starts with a blank. -/
lemma IsSpelled.isBlank_eq_false (h : l.IsSpelled) :
    ∀ c ∈ l.text.toList.head?, isBlank c = false := by
  intro c hc
  by_contra hblank
  rw [Bool.not_eq_false] at hblank
  cases l with
  | number digits =>
    obtain ⟨-, hdigits, -⟩ := firstNumber?_eq_some (firstNumber?_of_first? (first?_text h))
    rcases hdigits c (List.mem_of_mem_head? hc) with hdigit | rfl
    · simp [isDigit_eq_false_of_isBlank hblank] at hdigit
    · exact absurd hblank (by decide)
  | name s =>
    have hname : isNameChar c = true := IsName.chars h c (List.mem_of_mem_head? hc)
    simp [isNameChar_eq_false_of_isBlank hblank] at hname
  | operator op =>
    cases op <;> (obtain rfl := Option.some.inj hc; exact absurd hblank (by decide))
  | _ =>
    obtain rfl := Option.some.inj hc
    exact absurd hblank (by decide)

end Lexeme

/-! ### Single lexemes among the tokens -/

/-- A lexeme that is found becomes a token, and the text goes on after it. -/
lemma tokensFrom_of_first? {l : Lexeme} {rest : List Char}
    (h : Lexeme.first? (l.text.toList ++ rest) = some l) (p : Nat) :
    tokensFrom p 0 (l.text.toList ++ rest) =
      (tokensFrom (p + l.text.length) 0 rest).map (⟨l, p⟩ :: ·) := by
  have hspelled := Lexeme.isSpelled_of_first? h
  have hne := Lexeme.text_ne_empty_of_first? h
  rw [← String.length_toList] at hne
  obtain ⟨a, as, has⟩ := List.exists_cons_of_length_pos (Nat.pos_of_ne_zero hne)
  have hblank : isBlank a = false := hspelled.isBlank_eq_false a (by simp [has])
  have hplace : p + l.text.length = p + 1 + as.length := by
    rw [← String.length_toList, has, List.length_cons]
    omega
  have hlength : l.text.length - 1 = as.length := by omega
  rw [has, List.cons_append] at h ⊢
  rw [tokensFrom, hblank, h]
  simp only [Bool.false_eq_true, if_false]
  rw [hlength, tokensFrom_skip, hplace]

/-- The text of a lexeme is cut into one token. -/
lemma Lexeme.IsSpelled.tokensFrom_text {l : Lexeme} (h : l.IsSpelled) (p : Nat) :
    tokensFrom p 0 l.text.toList = .ok [⟨l, p⟩] := by
  have hfirst : first? (l.text.toList ++ []) = some l := by
    rw [List.append_nil]
    exact first?_text h
  simpa [tokensFrom, Except.map] using tokensFrom_of_first? hfirst p

end Tariff.Formula
