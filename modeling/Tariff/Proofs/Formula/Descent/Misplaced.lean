import Tariff.Proofs.Formula.Descent.Failing
import Tariff.Proofs.Formula.Descent.Leaving
import Tariff.Proofs.Formula.Scan
import Tariff.Proofs.Formula.Viable

/-!
# The first wrong token

Where the descent fails because of a token, or because the formula ends, what it has taken so far
can still be continued to a formula. But it cannot be continued with this token: the scan of what
has been taken ends there.

## Main definitions

* `Tariff.Formula.Error.misplaced?` — the token that an error is about.
* `Tariff.Formula.Scan.Halts` — the scan cannot go on.
* `Tariff.Formula.Blocked` — what is before and at the token that such an error is about.
* `Tariff.Formula.Descent.Blocks` — what holds of the functions of the descent with so many steps.

## Main results

* `Tariff.Formula.Descent.blocks` — where the functions of the descent fail.
* `Tariff.Formula.Descent.blocked_of_whole` — where the descent through a whole formula fails.
-/

set_option autoImplicit false

namespace Tariff.Formula

open Tariff.Text

/-- The text and the place of the token that an error is about, if it is about a token that stands
where it cannot. Without a text, the error is about the end of the formula. -/
def Error.misplaced? : Error → Option (Option String × Nat)
  | unexpectedToken found p | expected _ found p => some (found, p)
  | _ => none

/-- The message quotes the text of the token and gives its place. -/
lemma Error.exists_message {e : Error} {found : Option String} {p : Nat}
    (h : e.misplaced? = some (found, p)) :
    ∃ start, e.message = start ++ foundText found ++ positionText p := by
  cases e with
  | unexpectedToken | expected =>
    obtain ⟨rfl, rfl⟩ := Prod.mk.inj (Option.some.inj h)
    exact ⟨_, rfl⟩
  | _ => simp [misplaced?] at h

/-- An error is about the first of some tokens, or about the end of the formula if there is none. -/
def IsAbout (d : Descent) (ts : List Token) (e : Error) : Prop :=
  e.misplaced? = some (Descent.found ts, d.position ts)

/-- The scan cannot go on with the next token, or cannot end if there is none. -/
def Scan.Halts (s : Scan) : List Token → Prop
  | [] => ¬ s.IsPast []
  | t :: _ => s.next t.lexeme = none

/-- An error is about some token after those at the front of `ts`. The scan of the front, from `s`
on, halts at this token, and the front can be continued to what satisfies `P`. -/
def Blocked (d : Descent) (P : List Lexeme → Prop) (s : Scan) (ts : List Token) (e : Error) :
    Prop :=
  ∃ us rest s', ts = us ++ rest ∧ IsAbout d rest e ∧ s.run (us.map Token.lexeme) = some s' ∧
    s'.Halts rest ∧ Extendable P (us.map Token.lexeme)

variable {d : Descent} {P Q : List Lexeme → Prop} {s s₁ : Scan} {opened : List Bracket}
  {sym : Symbol} {level : Level} {l : Lexeme} {post : List Lexeme} {n : Nat} {t : Tree}
  {xs : List Tree} {us ts rest : List Token} {e : Error}

namespace Blocked

/-- An error is about the next token. -/
lemma here (habout : IsAbout d ts e) (hhalts : s.Halts ts) (hext : Extendable P []) :
    Blocked d P s ts e :=
  ⟨[], ts, s, rfl, habout, Scan.run_nil, hhalts, hext⟩

/-- What blocks after some tokens blocks from them on. -/
lemma after (hus : s.run (us.map Token.lexeme) = some s₁)
    (h : Blocked d (fun ms => Q (us.map Token.lexeme ++ ms)) s₁ ts e) :
    Blocked d Q s (us ++ ts) e := by
  obtain ⟨vs, rest, s', rfl, habout, hrun, hhalts, hext⟩ := h
  refine ⟨us ++ vs, rest, s', by simp, habout, ?_, hhalts, ?_⟩
  · rw [List.map_append]
    exact Scan.run_append hus hrun
  · rw [List.map_append]
    exact hext.append

/-- What blocks after a token blocks from it on. -/
lemma after_cons {u : Token} (hu : s.next u.lexeme = some s₁)
    (h : Blocked d (fun ms => Q (u.lexeme :: ms)) s₁ ts e) : Blocked d Q s (u :: ts) e := by
  have hrun : s.run ([u].map Token.lexeme) = some s₁ := Scan.run_cons hu Scan.run_nil
  exact after hrun h

/-- What blocks in a part blocks in the whole, if the part can be continued to it. -/
lemma part (post : List Lexeme) (hpost : ∀ l ∈ post, l.IsSpelled)
    (hPQ : ∀ ms, P ms → Q (ms ++ post)) (h : Blocked d P s ts e) : Blocked d Q s ts e := by
  obtain ⟨us, rest, s', rfl, habout, hrun, hhalts, hext⟩ := h
  exact ⟨us, rest, s', rfl, habout, hrun, hhalts, hext.part post hpost hPQ⟩

/-- What blocks in a part blocks in the whole, if the part ends it. -/
lemma imp (h : Blocked d P s ts e) (hPQ : ∀ ms, P ms → Q ms) : Blocked d Q s ts e :=
  h.part [] (by simp) fun ms hms => by simpa using hPQ ms hms

/-- What blocks where an operand has to come as an argument blocks after the parenthesis of the
call. -/
lemma argument (h : Blocked d P (.operand (.call :: opened)) ts e)
    (hts : ∀ t ∈ ts.head?, t.lexeme ≠ .closeParen) : Blocked d P (.argument opened) ts e := by
  obtain ⟨us, rest, s', rfl, habout, hrun, hhalts, hext⟩ := h
  cases us with
  | cons u us =>
    have hu : u.lexeme ≠ .closeParen := hts u rfl
    refine ⟨u :: us, rest, s', rfl, habout, ?_, hhalts, hext⟩
    rwa [List.map_cons, Scan.run_argument hu]
  | nil =>
    obtain rfl := Option.some.inj hrun
    refine ⟨[], rest, .argument opened, rfl, habout, rfl, ?_, hext⟩
    cases rest with
    | nil => simp [Scan.Halts, Scan.IsPast]
    | cons t rest =>
      have ht : t.lexeme ≠ .closeParen := hts t rfl
      have hstart : Scan.start (.call :: opened) t.lexeme = none := hhalts
      rw [Scan.Halts]
      cases hl : t.lexeme with
      | closeParen => exact absurd hl ht
      | _ => rwa [hl] at hstart

end Blocked

/-! ### What has been taken -/

/-- A lexeme that has been scanned as a name is one. -/
lemma Scan.eq_name_of_next (h : s.next l = some (.named opened)) : ∃ name, l = .name name := by
  cases l with
  | name name => exact ⟨name, rfl⟩
  | number | openParen | closeParen | comma | colon | question =>
    cases s with
    | operand opened' => simp [Scan.next, Scan.start] at h
    | argument opened' => simp [Scan.next, Scan.start] at h
    | named opened' | ended opened' =>
      rcases opened' with _ | ⟨_ | _ | _, opened'⟩ <;> simp [Scan.next, Scan.follow] at h
  | operator op =>
    cases s with
    | operand opened' => simp [Scan.next, Scan.start] at h
    | argument opened' => simp [Scan.next, Scan.start] at h
    | named opened' | ended opened' => simp [Scan.next, Scan.follow] at h

/-- What is barred by the last lexeme of an operand is not scanned after it. -/
lemma Scan.next_eq_none_of_bars {ls : List Lexeme} {u : Lexeme}
    (hrun : s.run (ls ++ [u]) = some s₁) (hs : s₁.IsPast opened) (hl : u.Bars l) :
    s₁.next l = none := by
  obtain ⟨htight, hcall⟩ := hl
  have hfollow : Scan.follow opened l = none := by
    cases l with
    | number | name | openParen => rcases opened with _ | ⟨_ | _ | _, opened⟩ <;> rfl
    | operator op =>
      cases op <;> simp [Lexeme.tightness, Operator.level?, Level.tightness] at htight
    | _ => simp [Lexeme.tightness] at htight
  rcases hs with rfl | rfl
  · obtain ⟨s₂, -, hu⟩ := Scan.exists_of_run_append hrun
    obtain ⟨s₃, hu, hnil⟩ := Option.bind_eq_some_iff.1 hu
    obtain rfl := Option.some.inj hnil
    obtain ⟨name, rfl⟩ := Scan.eq_name_of_next hu
    rw [Scan.IsPast.next_eq (.inl rfl) (hcall name rfl), hfollow]
  · exact hfollow

/-- The scan from `s` to `s₁` takes the tokens `us`, which satisfy `P`, and leaves `rest`. It is
past an operand then, and the next token does not continue an instance of the symbol. -/
structure Takes (P : List Lexeme → Prop) (sym : Symbol) (opened : List Bracket) (s : Scan)
    (us rest : List Token) (s₁ : Scan) : Prop where
  /-- the tokens satisfy `P` -/
  formed : P (us.map Token.lexeme)
  /-- the tokens are scanned -/
  run : s.run (us.map Token.lexeme) = some s₁
  /-- the scan is past an operand -/
  isPast : s₁.IsPast opened
  /-- the next token does not bind tighter than the symbol, or it is not scanned -/
  next : ∀ t ∈ rest.head?, t.lexeme.tightness ≤ sym.tightness ∨ s₁.next t.lexeme = none

/-- What leaves tokens that do not continue takes what is before them. -/
lemma Leaves.takes (hleaves : Leaves sym (us ++ rest) rest) (hformed : P (us.map Token.lexeme))
    (hrun : s.run (us.map Token.lexeme) = some s₁) (hs : s₁.IsPast opened) :
    Takes P sym opened s us rest s₁ := by
  obtain ⟨vs, u, hsplit, hnext⟩ := hleaves
  obtain rfl : us = vs ++ [u] := List.append_cancel_right (by simpa using hsplit)
  refine ⟨hformed, hrun, hs, fun t ht => (hnext t ht).imp_right fun hbars => ?_⟩
  rw [List.map_append, List.map_singleton] at hrun
  exact Scan.next_eq_none_of_bars hrun hs hbars

/-- What is read and leaves only tokens that do not continue is taken. -/
lemma Reads.exists_takes (hread : Reads sym n ts t rest) (hleaves : Leaves sym ts rest)
    (opened : List Bracket) : ∃ us s₁, ts = us ++ rest ∧
      Takes (IsFormed sym) sym opened (.operand opened) us rest s₁ := by
  obtain ⟨us, rfl, p, hp, hcalls⟩ := hread.isFormed
  obtain ⟨s₁, hrun, hs⟩ := Scan.exists_run_of_derives hp opened
  exact ⟨us, s₁, rfl, hleaves.takes ⟨p, hp, hcalls⟩ hrun hs⟩

/-- Arguments that are read and leave only tokens that do not continue are taken. -/
lemma ReadsAll.exists_takes (hread : ReadsAll separated n ts xs rest)
    (hleaves : Leaves .conditional ts rest) (opened : List Bracket) : ∃ us s₁, ts = us ++ rest ∧
      Takes (IsFormedAll separated) .conditional (.call :: opened) (.argument opened) us rest
        s₁ := by
  obtain ⟨us, rfl, texts, hus, htexts⟩ := hread.isFormedAll
  have hne : texts ≠ [] := by
    rintro rfl
    obtain rfl : us = [] := List.map_eq_nil_iff.1 hus
    obtain ⟨vs, u, hsplit, -⟩ := hleaves
    have hlen := congrArg List.length hsplit
    simp only [List.nil_append, List.length_append, List.length_cons] at hlen
    omega
  have hscan : ∀ ls ∈ texts, ls.head? ≠ some .closeParen ∧ ∃ s',
      Scan.run (.operand (.call :: opened)) ls = some s' ∧ s'.IsPast (.call :: opened) := by
    intro ls hls
    obtain ⟨p, hp, -⟩ := htexts ls hls
    exact ⟨hp.head?_ne_closeParen, Scan.exists_run_of_derives hp _⟩
  obtain ⟨s₁, hrun, hs⟩ := Scan.exists_run_separated hne hscan
  rw [← hus] at hrun
  exact ⟨us, s₁, rfl, hleaves.takes ⟨texts, hus, htexts⟩ hrun hs⟩

/-- Where a conditional has been taken, the scan halts unless one of the lexemes comes next that end
conditionals. -/
lemma Takes.halts (h : Takes P .conditional opened s us rest s₁) (hne : opened ≠ [] ∨ rest ≠ [])
    (hfollow : ∀ t ∈ rest.head?, t.lexeme.tightness ≤ Symbol.conditional.tightness →
      Scan.follow opened t.lexeme = none) : s₁.Halts rest := by
  cases rest with
  | nil =>
    rcases h.isPast with rfl | rfl <;> simpa [Scan.Halts, Scan.IsPast] using hne
  | cons t rest =>
    rcases h.next t rfl with htight | hnone
    · have ht : t.lexeme ≠ .openParen := by
        intro hl
        simp [hl, Lexeme.tightness, Symbol.tightness] at htight
      rw [Scan.Halts, h.isPast.next_eq ht, hfollow t rfl htight]
    · exact hnone

/-- Only a closing parenthesis, a comma and a colon do not bind at all. -/
lemma Lexeme.eq_of_tightness_le_conditional (h : l.tightness ≤ Symbol.conditional.tightness) :
    l = .closeParen ∨ l = .comma ∨ l = .colon := by
  cases l with
  | closeParen | comma | colon => simp
  | operator op => cases op <;> simp [tightness, Operator.level?, Symbol.tightness] at h
  | _ => simp [tightness, Symbol.tightness] at h

namespace Descent

variable {steps : Nat} {left : Tree}

/-- A closing parenthesis that is required and not there is the error. -/
lemma require_closeParen_eq_error (h : d.require .closeParen ts = .error e) :
    IsAbout d ts e ∧ ∀ t ∈ ts.head?, t.lexeme ≠ .closeParen := by
  unfold require at h
  split at h
  · simp at h
  · simp at h
  · next hclose _ =>
    obtain rfl := Except.error.inj h
    exact ⟨rfl, lexeme_ne_of_mem_head? fun p rest h => hclose p rest h rfl⟩

/-- A colon that is required and not there is the error. -/
lemma require_colon_eq_error (h : d.require .colon ts = .error e) :
    IsAbout d ts e ∧ ∀ t ∈ ts.head?, t.lexeme ≠ .colon := by
  unfold require at h
  split at h
  · simp at h
  · simp at h
  · next hcolon =>
    obtain rfl := Except.error.inj h
    exact ⟨rfl, lexeme_ne_of_mem_head? fun p rest h => hcolon p rest h rfl⟩

/-- Where the functions of the descent fail with so many steps, for an error about a token. -/
structure Blocks (d : Descent) (steps : Nat) : Prop where
  conditional : ∀ {n ts e} opened, d.conditional steps n ts = .error e →
    e.misplaced?.isSome = true → Blocked d (IsFormed .conditional) (.operand opened) ts e
  chain : ∀ {n level ts e} opened, d.chain steps n level ts = .error e →
    e.misplaced?.isSome = true → Blocked d (IsFormed (.chain level)) (.operand opened) ts e
  chainAfter : ∀ {n level left ts e opened s ls}, d.chainAfter steps n level left ts = .error e →
    e.misplaced?.isSome = true → IsFormed (.chain level) ls → Scan.IsPast opened s →
      Blocked d (fun ms => IsFormed (.chain level) (ls ++ ms)) s ts e
  operand : ∀ {n level ts e} opened, d.operand steps n level ts = .error e →
    e.misplaced?.isSome = true → Blocked d (IsFormed level.operand) (.operand opened) ts e
  signed : ∀ {n ts e} opened, d.signed steps n ts = .error e → e.misplaced?.isSome = true →
    Blocked d (IsFormed .signed) (.operand opened) ts e
  powered : ∀ {n ts e} opened, d.powered steps n ts = .error e → e.misplaced?.isSome = true →
    sign? ts = none → Blocked d (IsFormed .powered) (.operand opened) ts e
  primary : ∀ {n ts e} opened, d.primary steps n ts = .error e → e.misplaced?.isSome = true →
    sign? ts = none → Blocked d (IsFormed .primary) (.operand opened) ts e
  arguments : ∀ {n ts e} opened, d.arguments steps n ts = .error e → e.misplaced?.isSome = true →
    Blocked d (IsFormedAll separated) (.argument opened) ts e
  moreArguments : ∀ {n ts e opened s}, d.moreArguments steps n ts = .error e →
    e.misplaced?.isSome = true → Scan.IsPast (.call :: opened) s →
      Blocked d (IsFormedAll (List.flatMap (.comma :: ·))) s ts e

section Step

lemma Blocks.conditional_succ (ih : d.Blocks steps) (opened : List Bracket)
    (h : d.conditional (steps + 1) n ts = .error e) (he : e.misplaced?.isSome = true) :
    Blocked d (IsFormed .conditional) (.operand opened) ts e := by
  simp only [Descent.conditional, bind_eq_error, Prod.exists] at h
  rcases h with h | ⟨c, ts₁, hc, h⟩
  · exact (ih.chain opened h he).imp fun _ hms => hms.plain
  obtain ⟨us, s₁, rfl, hus⟩ := ((d.sound steps).chain hc).exists_takes
    ((d.exhaustive steps).chain hc) opened
  split at h
  case h_2 => simp at h
  next p ts₂ =>
  have hquestion : s₁.next .question = some (.operand (.choice :: opened)) :=
    hus.isPast.next_eq (by simp)
  refine .after hus.run (.after_cons hquestion ?_)
  simp only [bind_eq_error, Prod.exists] at h
  rcases h with h | ⟨a, ts₃, ha, h⟩
  · exact (ih.conditional _ h he).part _ isSpelled_of_mem_colon fun ms hms =>
      hus.formed.choice hms (.number "1" _)
  obtain ⟨vs, s₂, rfl, hvs⟩ := ((d.sound steps).conditional ha).exists_takes
    ((d.exhaustive steps).conditional ha) (.choice :: opened)
  refine .after hvs.run ?_
  rcases h with h | ⟨ts₄, hcolon, h⟩
  · obtain ⟨habout, hne⟩ := require_colon_eq_error h
    refine .here habout (hvs.halts (.inl (by simp)) fun t ht htight => ?_)
      ⟨_, isSpelled_of_mem_colon, hus.formed.choice hvs.formed (.number "1" _)⟩
    rcases Lexeme.eq_of_tightness_le_conditional htight with hl | hl | hl
    · rw [hl]; rfl
    · rw [hl]; rfl
    · exact absurd hl (hne t ht)
  obtain ⟨q, rfl⟩ := eq_cons_of_require_colon hcolon
  rcases h with h | ⟨b, ts₅, -, h⟩
  · exact .after_cons (hvs.isPast.next_eq (by simp))
      ((ih.conditional opened h he).imp fun _ hms => hus.formed.choice hvs.formed hms)
  · simp at h

lemma Blocks.chain_succ (ih : d.Blocks steps) (opened : List Bracket)
    (h : d.chain (steps + 1) n level ts = .error e) (he : e.misplaced?.isSome = true) :
    Blocked d (IsFormed (.chain level)) (.operand opened) ts e := by
  simp only [Descent.chain, bind_eq_error, Prod.exists] at h
  rcases h with h | ⟨left, ts₁, hleft, h⟩
  · exact (ih.operand opened h he).imp fun _ hms => hms.single
  obtain ⟨us, s₁, rfl, hus⟩ := ((d.sound steps).operand hleft).exists_takes
    ((d.exhaustive steps).operand hleft) opened
  exact .after hus.run (ih.chainAfter h he hus.formed.single hus.isPast)

lemma Blocks.chainAfter_succ (ih : d.Blocks steps) {ls : List Lexeme}
    (h : d.chainAfter (steps + 1) n level left ts = .error e) (he : e.misplaced?.isSome = true)
    (hls : IsFormed (.chain level) ls) (hs : s.IsPast opened) :
    Blocked d (fun ms => IsFormed (.chain level) (ls ++ ms)) s ts e := by
  simp only [Descent.chainAfter] at h
  split at h
  · simp at h
  next op ts₁ hop =>
  obtain ⟨hlevel, p, rfl⟩ := eq_cons_of_operator? hop
  refine .after_cons (hs.next_eq (by simp)) ?_
  simp only [bind_eq_error, Prod.exists] at h
  rcases h with h | ⟨right, ts₂, hright, h⟩
  · exact (ih.operand opened h he).imp fun _ hms => hls.binary hlevel hms
  obtain ⟨us, s₁, rfl, hus⟩ := ((d.sound steps).operand hright).exists_takes
    ((d.exhaustive steps).operand hright) opened
  have hmore := ih.chainAfter h he (hls.binary hlevel hus.formed) hus.isPast
  exact .after hus.run (hmore.imp fun ms hms => by simpa using hms)

lemma Blocks.operand_succ (ih : d.Blocks steps) (opened : List Bracket)
    (h : d.operand (steps + 1) n level ts = .error e) (he : e.misplaced?.isSome = true) :
    Blocked d (IsFormed level.operand) (.operand opened) ts e := by
  cases level with
  | comparison => exact ih.chain opened h he
  | additive => exact ih.chain opened h he
  | multiplicative => exact ih.signed opened h he

lemma Blocks.signed_succ (ih : d.Blocks steps) (opened : List Bracket)
    (h : d.signed (steps + 1) n ts = .error e) (he : e.misplaced?.isSome = true) :
    Blocked d (IsFormed .signed) (.operand opened) ts e := by
  cases n with
  | zero =>
    obtain rfl := Except.error.inj h
    contradiction
  | succ n =>
    simp only [Descent.signed] at h
    split at h
    · next sign ts₁ hsign =>
      obtain ⟨op, p, hop, rfl⟩ := eq_cons_of_sign? hsign
      have hnext : (Scan.operand opened).next (.operator op) = some (.operand opened) := by
        simp [Scan.next, Scan.start, hop]
      refine .after_cons hnext ?_
      simp only [bind_eq_error, Prod.exists] at h
      rcases h with h | ⟨o, ts₂, -, h⟩
      · exact (ih.signed opened h he).imp fun _ hms => hms.signed hop
      · simp at h
    · next hsign => exact (ih.powered opened h he hsign).imp fun _ hms => hms.unsigned

lemma Blocks.powered_succ (ih : d.Blocks steps) (opened : List Bracket)
    (h : d.powered (steps + 1) n ts = .error e) (he : e.misplaced?.isSome = true)
    (hsign : sign? ts = none) : Blocked d (IsFormed .powered) (.operand opened) ts e := by
  simp only [Descent.powered, bind_eq_error, Prod.exists] at h
  rcases h with h | ⟨b, ts₁, hb, h⟩
  · exact (ih.primary opened h he hsign).imp fun _ hms => hms.base
  obtain ⟨us, s₁, rfl, hus⟩ := ((d.sound steps).primary hb).exists_takes
    ((d.exhaustive steps).primary hb) opened
  split at h
  · refine .after hus.run (.after_cons (hus.isPast.next_eq (by simp)) ?_)
    simp only [bind_eq_error, Prod.exists] at h
    rcases h with h | ⟨x, ts₂, -, h⟩
    · exact (ih.signed opened h he).imp fun _ hms => hus.formed.power hms
    · simp at h
  · simp at h

/-- Where an operand has to come, the scan halts at what starts neither a primary nor a sign. -/
lemma halts_operand (hsign : sign? ts = none) (hnumber : ∀ digits, ∀ t ∈ ts.head?,
    t.lexeme ≠ .number digits) (hname : ∀ name, ∀ t ∈ ts.head?, t.lexeme ≠ .name name)
    (hopen : ∀ t ∈ ts.head?, t.lexeme ≠ .openParen) : (Scan.operand opened).Halts ts := by
  cases ts with
  | nil => simp [Scan.Halts, Scan.IsPast]
  | cons t ts =>
    obtain ⟨l, p⟩ := t
    cases l with
    | number digits => exact absurd rfl (hnumber digits _ rfl)
    | name name => exact absurd rfl (hname name _ rfl)
    | openParen => exact absurd rfl (hopen _ rfl)
    | operator op =>
      have hop : op.sign? = none := by simpa [sign?] using hsign
      simp [Scan.Halts, Scan.next, Scan.start, hop]
    | _ => rfl

lemma Blocks.primary_succ (ih : d.Blocks steps) (opened : List Bracket)
    (h : d.primary (steps + 1) n ts = .error e) (he : e.misplaced?.isSome = true)
    (hsign : sign? ts = none) : Blocked d (IsFormed .primary) (.operand opened) ts e := by
  simp only [Descent.primary] at h
  split at h
  · simp at h
  · -- a parenthesis follows the name, so it is called
    next name p o ts₁ =>
    split at h
    · obtain rfl := Except.error.inj h
      contradiction
    next f hf =>
    have hfunction : (Function.ofName? (lowerAscii name)).isSome = true := by simp [hf]
    have hname : (Scan.operand opened).next (.name name) = some (.named opened) := rfl
    have hopen : (Scan.named opened).next .openParen = some (.argument opened) := rfl
    refine .after_cons hname (.after_cons hopen ?_)
    simp only [bind_eq_error, Prod.exists] at h
    rcases h with h | ⟨xs, ts₂, hargs, h⟩
    · exact (ih.arguments opened h he).part _ isSpelled_of_mem_closeParen fun ms hms =>
        .call hfunction hms
    rcases h with h | ⟨ts₃, -, h⟩
    · obtain ⟨habout, hne⟩ := require_closeParen_eq_error h
      rcases (d.exhaustive steps).arguments hargs with ⟨q, ts₃, rfl⟩ | ⟨hleaves, hcomma⟩
      · exact absurd rfl (hne _ rfl)
      obtain ⟨us, s₁, rfl, hus⟩ := ((d.sound steps).arguments hargs).exists_takes hleaves opened
      refine .after hus.run (.here habout (hus.halts (.inl (by simp)) fun t ht htight => ?_)
        ⟨_, isSpelled_of_mem_closeParen, .call hfunction hus.formed⟩)
      rcases Lexeme.eq_of_tightness_le_conditional htight with hl | hl | hl
      · exact absurd hl (hne t ht)
      · exact absurd hl (hcomma t ht)
      · rw [hl]; rfl
    rcases h with h | ⟨t, -, h⟩
    · obtain ⟨-, rfl⟩ := eq_wrongCount_of_call h
      contradiction
    · simp at h
  · simp at h
  · have hopen : (Scan.operand opened).next .openParen = some (.operand (.group :: opened)) := rfl
    refine .after_cons hopen ?_
    simp only [bind_eq_error, Prod.exists] at h
    rcases h with h | ⟨t, ts₁, hinner, h⟩
    · exact (ih.conditional _ h he).part _ isSpelled_of_mem_closeParen fun ms hms => hms.group
    obtain ⟨us, s₁, rfl, hus⟩ := ((d.sound steps).conditional hinner).exists_takes
      ((d.exhaustive steps).conditional hinner) (.group :: opened)
    rcases h with h | ⟨ts₂, -, h⟩
    · obtain ⟨habout, hne⟩ := require_closeParen_eq_error h
      refine .after hus.run (.here habout (hus.halts (.inl (by simp)) fun t ht htight => ?_)
        ⟨_, isSpelled_of_mem_closeParen, hus.formed.group⟩)
      rcases Lexeme.eq_of_tightness_le_conditional htight with hl | hl | hl
      · exact absurd hl (hne t ht)
      · rw [hl]; rfl
      · rw [hl]; rfl
    · simp at h
  · next hnumber hcall hname hopen =>
    obtain rfl := Except.error.inj h
    refine .here rfl (halts_operand hsign ?_ ?_ ?_) ⟨_, isSpelled_of_mem_one, .number "1" _⟩
    · exact fun digits => lexeme_ne_of_mem_head? fun p rest => hnumber digits p rest
    · exact fun name => lexeme_ne_of_mem_head? fun p rest => hname name p rest
    · exact lexeme_ne_of_mem_head? hopen

lemma Blocks.arguments_succ (ih : d.Blocks steps) (opened : List Bracket)
    (h : d.arguments (steps + 1) n ts = .error e) (he : e.misplaced?.isSome = true) :
    Blocked d (IsFormedAll separated) (.argument opened) ts e := by
  simp only [Descent.arguments] at h
  split at h
  · simp at h
  next hclose =>
  refine Blocked.argument ?_ (lexeme_ne_of_mem_head? hclose)
  simp only [bind_eq_error, Prod.exists] at h
  rcases h with h | ⟨a, ts₁, ha, h⟩
  · exact (ih.conditional _ h he).imp fun ms hms => by simpa using IsFormedAll.first hms (.nil rfl)
  obtain ⟨us, s₁, rfl, hus⟩ := ((d.sound steps).conditional ha).exists_takes
    ((d.exhaustive steps).conditional ha) (.call :: opened)
  rcases h with h | ⟨others, ts₂, -, h⟩
  · exact .after hus.run ((ih.moreArguments h he hus.isPast).imp fun _ hms => .first hus.formed hms)
  · simp at h

lemma Blocks.moreArguments_succ (ih : d.Blocks steps)
    (h : d.moreArguments (steps + 1) n ts = .error e) (he : e.misplaced?.isSome = true)
    (hs : s.IsPast (.call :: opened)) :
    Blocked d (IsFormedAll (List.flatMap (.comma :: ·))) s ts e := by
  simp only [Descent.moreArguments] at h
  split at h
  · refine .after_cons (hs.next_eq (by simp)) ?_
    simp only [bind_eq_error, Prod.exists] at h
    rcases h with h | ⟨a, ts₁, ha, h⟩
    · exact (ih.conditional _ h he).imp fun ms hms => by
        simpa using IsFormedAll.next hms (.nil rfl)
    obtain ⟨us, s₁, rfl, hus⟩ := ((d.sound steps).conditional ha).exists_takes
      ((d.exhaustive steps).conditional ha) (.call :: opened)
    rcases h with h | ⟨others, ts₂, -, h⟩
    · exact .after hus.run ((ih.moreArguments h he hus.isPast).imp fun _ hms =>
        .next hus.formed hms)
    · simp at h
  · simp at h

end Step

/-- Where the functions of the descent fail for an error about a token, the tokens before it can be
continued, but not with this token.

**Proof sketch.** Induction on the number of steps, with one case for each function of the descent.
What a function has taken before the call that fails is formed, by soundness, and is scanned, by
`Scan.exists_run_of_derives`; the rule of the grammar continues both past the call. Where a token is
required and not there, the tokens that do not end a conditional cannot follow it (`exhaustive`). -/
theorem blocks (d : Descent) (steps : Nat) : d.Blocks steps := by
  induction steps with
  | zero =>
    have hexhausted : ∀ {e}, Error.exhausted = e → e.misplaced?.isSome ≠ true := by
      rintro _ rfl
      simp [Error.misplaced?]
    constructor <;> intros <;>
      exact absurd ‹Option.isSome _ = true› (hexhausted (Except.error.inj ‹_ = Except.error _›))
  | succ steps ih =>
    exact ⟨ih.conditional_succ, ih.chain_succ, ih.chainAfter_succ, ih.operand_succ,
      ih.signed_succ, ih.powered_succ, ih.primary_succ, ih.arguments_succ, ih.moreArguments_succ⟩

/-- Where the descent through a whole formula fails for an error about a token, the tokens before it
can be continued, but not with this token. -/
theorem blocked_of_whole (h : d.whole ts = .error e) (he : e.misplaced?.isSome = true) :
    Blocked d (IsFormed .conditional) (.operand []) ts e := by
  simp only [whole, bind_eq_error, Prod.exists] at h
  rcases h with h | ⟨t, rest, hread, h⟩
  · exact (d.blocks _).conditional [] h he
  obtain ⟨us, s₁, rfl, hus⟩ := ((d.sound _).conditional hread).exists_takes
    ((d.exhaustive _).conditional hread) []
  split at h
  · simp at h
  next hrest =>
  obtain rfl := Except.error.inj h
  refine .after hus.run (.here rfl (hus.halts (.inr hrest) fun t ht htight => ?_)
    ⟨[], by simp, by simpa using hus.formed⟩)
  rcases Lexeme.eq_of_tightness_le_conditional htight with hl | hl | hl <;> rw [hl] <;> rfl

end Descent

end Tariff.Formula
