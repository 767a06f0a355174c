import Tariff.Proofs.Formula.Descent.Completeness
import Tariff.Proofs.Formula.Descent.Soundness

/-!
# What the descent leaves

A function of the descent takes as many tokens as it can. The next token that it leaves does not
bind tighter than its symbol, or it cannot follow the last token that was taken in any formula.

## Main definitions

* `Tariff.Formula.Lexeme.Bars` — a lexeme that ends an operand bars another one after it.
* `Tariff.Formula.Leaves` — what is left after an instance of a symbol.
* `Tariff.Formula.Descent.Exhaustive` — what holds of the functions of the descent with so many
  steps.

## Main results

* `Tariff.Formula.Descent.exhaustive` — the functions of the descent leave such tokens only.
-/

set_option autoImplicit false

namespace Tariff.Formula

open Tariff.Text

/-- A lexeme that ends an operand bars numbers, names and opening parentheses after it; but a name
may be called. -/
def Lexeme.Bars (u l : Lexeme) : Prop :=
  l.tightness = 6 ∧ ∀ name, u = .name name → l ≠ .openParen

/-- At least one token has been taken off `ts`, and the next token of `rest`, if there is one, does
not continue an instance of the symbol: it does not bind tighter, or it is barred. -/
def Leaves (sym : Symbol) (ts rest : List Token) : Prop :=
  ∃ us u, ts = us ++ u :: rest ∧
    ∀ t ∈ rest.head?, t.lexeme.tightness ≤ sym.tightness ∨ u.lexeme.Bars t.lexeme

namespace Leaves

variable {sym sym' : Symbol} {ts rest : List Token} {u : Token}

/-- What is left does not depend on what was taken before. -/
lemma append (h : Leaves sym ts rest) (us : List Token) : Leaves sym (us ++ ts) rest := by
  obtain ⟨vs, v, rfl, hnext⟩ := h
  exact ⟨us ++ vs, v, by simp, hnext⟩

/-- What is left does not depend on a token that was taken before. -/
lemma cons (h : Leaves sym ts rest) (u : Token) : Leaves sym (u :: ts) rest :=
  h.append [u]

/-- What is left after a token that was left before is left in the end. -/
lemma trans_cons {ts₁ : List Token} (h : Leaves sym ts (u :: ts₁)) (h' : Leaves sym' ts₁ rest) :
    Leaves sym' ts rest := by
  obtain ⟨us, v, rfl, -⟩ := h
  exact ((h'.cons u).cons v).append us

/-- Nothing that binds tighter than one symbol but not tighter than another one comes next. -/
lemma loosen (h : Leaves sym ts rest) (hnext : ∀ t ∈ rest.head?,
    t.lexeme.tightness ≤ sym.tightness → t.lexeme.tightness ≤ sym'.tightness) :
    Leaves sym' ts rest := by
  obtain ⟨us, u, rfl, hrest⟩ := h
  exact ⟨us, u, rfl, fun t ht => (hrest t ht).imp_left (hnext t ht)⟩

/-- Nothing binds tighter than a primary without being barred by its last token. -/
lemma primary (us : List Token) (hcall : ∀ name, u.lexeme = .name name →
    ∀ t ∈ rest.head?, t.lexeme ≠ .openParen) : Leaves .primary (us ++ u :: rest) rest := by
  refine ⟨us, u, rfl, fun t ht => ?_⟩
  by_cases htight : t.lexeme.tightness = 6
  · exact .inr ⟨htight, fun name hname => hcall name hname t ht⟩
  · left
    cases hl : t.lexeme with
    | operator op =>
      cases hop : op.level? with
      | none => simp [Lexeme.tightness, Symbol.tightness, hop]
      | some level =>
        cases level <;> simp [Lexeme.tightness, Symbol.tightness, hop, Level.tightness]
    | _ => simp_all [Lexeme.tightness, Symbol.tightness]

end Leaves

/-! ### What binds how tight -/

section

variable {l : Lexeme} {level : Level} {ts rest : List Token}

/-- Tokens that do not start with a lexeme have no such lexeme first. -/
lemma lexeme_ne_of_mem_head? (h : ∀ p rest, ts = ⟨l, p⟩ :: rest → False) :
    ∀ t ∈ ts.head?, t.lexeme ≠ l := by
  rintro t ht rfl
  cases ts with
  | nil => simp at ht
  | cons u rest =>
    obtain rfl : u = t := by simpa using ht
    exact h _ _ rfl

/-- Only a question mark binds as loose as that but tighter than nothing. -/
lemma Lexeme.tightness_le_conditional (hl : l ≠ .question)
    (h : l.tightness ≤ (Symbol.chain .comparison).tightness) :
    l.tightness ≤ Symbol.conditional.tightness := by
  cases l with
  | question => exact absurd rfl hl
  | operator op =>
    cases hop : op.level? with
    | none => simp [tightness, hop, Symbol.tightness, Level.tightness] at h
    | some level => cases level <;> simp [tightness, hop, Symbol.tightness, Level.tightness] at h
  | _ => simp_all [tightness, Symbol.tightness, Level.tightness]

/-- Only an operator of its level binds tighter than a chain but not tighter than its operands. -/
lemma tightness_le_chain (hop : Descent.operator? level ts = none) : ∀ t ∈ ts.head?,
    t.lexeme.tightness ≤ level.operand.tightness →
      t.lexeme.tightness ≤ (Symbol.chain level).tightness := by
  rintro ⟨l, p⟩ hl htight
  obtain ⟨rest, rfl⟩ : ∃ rest, ts = ⟨l, p⟩ :: rest := by
    cases ts with
    | nil => simp at hl
    | cons t rest => exact ⟨rest, by simpa using hl⟩
  cases l with
  | operator op =>
    cases hlevel : op.level? with
    | none =>
      cases level <;>
        simp [Lexeme.tightness, hlevel, Level.operand, Symbol.tightness, Level.tightness] at htight
    | some level' =>
      cases level <;> cases level' <;>
        simp_all [Lexeme.tightness, Level.operand, Symbol.tightness, Level.tightness,
          Descent.operator?]
  | _ =>
    cases level <;>
      simp_all [Lexeme.tightness, Level.operand, Symbol.tightness, Level.tightness]

/-- Only a power binds tighter than one but not tighter than a primary. -/
lemma Lexeme.tightness_le_powered (hl : l ≠ .operator .pow)
    (h : l.tightness ≤ Symbol.primary.tightness) : l.tightness ≤ Symbol.powered.tightness := by
  cases l with
  | operator op => cases op <;> simp_all [tightness, Operator.level?, Symbol.tightness,
      Level.tightness]
  | _ => simp_all [tightness, Symbol.tightness]

end

namespace Descent

variable {d : Descent} {steps n : Nat} {level : Level} {t left : Tree} {xs : List Tree}
  {ts all rest : List Token}

/-- What the functions of the descent leave with so many steps. After the arguments of a call no
comma comes next. -/
structure Exhaustive (d : Descent) (steps : Nat) : Prop where
  conditional : ∀ {n ts t rest}, d.conditional steps n ts = .ok (t, rest) →
    Leaves .conditional ts rest
  chain : ∀ {n level ts t rest}, d.chain steps n level ts = .ok (t, rest) →
    Leaves (.chain level) ts rest
  chainAfter : ∀ {n level left all ts t rest}, d.chainAfter steps n level left ts = .ok (t, rest) →
    Leaves level.operand all ts → Leaves (.chain level) all rest
  operand : ∀ {n level ts t rest}, d.operand steps n level ts = .ok (t, rest) →
    Leaves level.operand ts rest
  signed : ∀ {n ts t rest}, d.signed steps n ts = .ok (t, rest) → Leaves .signed ts rest
  powered : ∀ {n ts t rest}, d.powered steps n ts = .ok (t, rest) → Leaves .powered ts rest
  primary : ∀ {n ts t rest}, d.primary steps n ts = .ok (t, rest) → Leaves .primary ts rest
  arguments : ∀ {n ts xs rest}, d.arguments steps n ts = .ok (xs, rest) →
    (∃ p rest', rest = ⟨.closeParen, p⟩ :: rest') ∨
      Leaves .conditional ts rest ∧ ∀ t ∈ rest.head?, t.lexeme ≠ .comma
  moreArguments : ∀ {n all ts xs rest}, d.moreArguments steps n ts = .ok (xs, rest) →
    Leaves .conditional all ts →
      Leaves .conditional all rest ∧ ∀ t ∈ rest.head?, t.lexeme ≠ .comma

section Step

lemma Exhaustive.conditional_succ (ih : d.Exhaustive steps)
    (h : d.conditional (steps + 1) n ts = .ok (t, rest)) : Leaves .conditional ts rest := by
  simp only [Descent.conditional, bind_eq_ok, Prod.exists] at h
  obtain ⟨c, ts₁, hc, h⟩ := h
  replace hc := ih.chain hc
  split at h
  · -- the value after the colon is the last that is taken
    simp only [bind_eq_ok, Except.ok.injEq, Prod.mk.injEq, Prod.exists] at h
    obtain ⟨a, ts₂, ha, ts₃, hcolon, b, ts₄, hb, rfl, rfl⟩ := h
    obtain ⟨p, rfl⟩ := eq_cons_of_require_colon hcolon
    exact hc.trans_cons ((ih.conditional ha).trans_cons (ih.conditional hb))
  · next hquestion =>
    simp only [Except.ok.injEq, Prod.mk.injEq] at h
    obtain ⟨rfl, rfl⟩ := h
    exact hc.loosen fun t ht =>
      Lexeme.tightness_le_conditional (lexeme_ne_of_mem_head? hquestion t ht)

lemma Exhaustive.chain_succ (ih : d.Exhaustive steps)
    (h : d.chain (steps + 1) n level ts = .ok (t, rest)) : Leaves (.chain level) ts rest := by
  simp only [Descent.chain, bind_eq_ok, Prod.exists] at h
  obtain ⟨left, ts₁, hleft, h⟩ := h
  exact ih.chainAfter h (ih.operand hleft)

lemma Exhaustive.chainAfter_succ (ih : d.Exhaustive steps)
    (h : d.chainAfter (steps + 1) n level left ts = .ok (t, rest))
    (hleft : Leaves level.operand all ts) : Leaves (.chain level) all rest := by
  simp only [Descent.chainAfter] at h
  split at h
  · next hop =>
    simp only [Except.ok.injEq, Prod.mk.injEq] at h
    obtain ⟨rfl, rfl⟩ := h
    exact hleft.loosen (tightness_le_chain hop)
  · next op ts₁ hop =>
    simp only [bind_eq_ok, Prod.exists] at h
    obtain ⟨right, ts₂, hright, h⟩ := h
    obtain ⟨-, p, rfl⟩ := eq_cons_of_operator? hop
    exact ih.chainAfter h (hleft.trans_cons (ih.operand hright))

lemma Exhaustive.operand_succ (ih : d.Exhaustive steps)
    (h : d.operand (steps + 1) n level ts = .ok (t, rest)) : Leaves level.operand ts rest := by
  cases level with
  | comparison => exact ih.chain h
  | additive => exact ih.chain h
  | multiplicative => exact ih.signed h

lemma Exhaustive.signed_succ (ih : d.Exhaustive steps)
    (h : d.signed (steps + 1) n ts = .ok (t, rest)) : Leaves .signed ts rest := by
  cases n with
  | zero => simp [Descent.signed] at h
  | succ n =>
    simp only [Descent.signed] at h
    split at h
    · next sign ts₁ hsign =>
      simp only [bind_eq_ok, Except.ok.injEq, Prod.mk.injEq, Prod.exists] at h
      obtain ⟨o, ts₂, ho, rfl, rfl⟩ := h
      obtain ⟨op, p, -, rfl⟩ := eq_cons_of_sign? hsign
      exact (ih.signed ho).cons _
    · exact (ih.powered h).loosen fun _ _ hle => hle

lemma Exhaustive.powered_succ (ih : d.Exhaustive steps)
    (h : d.powered (steps + 1) n ts = .ok (t, rest)) : Leaves .powered ts rest := by
  simp only [Descent.powered, bind_eq_ok, Prod.exists] at h
  obtain ⟨b, ts₁, hb, h⟩ := h
  replace hb := ih.primary hb
  split at h
  · simp only [bind_eq_ok, Except.ok.injEq, Prod.mk.injEq, Prod.exists] at h
    obtain ⟨e, ts₂, he, rfl, rfl⟩ := h
    exact (hb.trans_cons (ih.signed he)).loosen fun _ _ hle => hle
  · next hpow =>
    simp only [Except.ok.injEq, Prod.mk.injEq] at h
    obtain ⟨rfl, rfl⟩ := h
    exact hb.loosen fun t ht => Lexeme.tightness_le_powered (lexeme_ne_of_mem_head? hpow t ht)

lemma Exhaustive.primary_succ (h : d.primary (steps + 1) n ts = .ok (t, rest)) :
    Leaves .primary ts rest := by
  simp only [Descent.primary] at h
  split at h
  · simp only [Except.ok.injEq, Prod.mk.injEq] at h
    obtain ⟨rfl, rfl⟩ := h
    exact .primary [] (by simp)
  · split at h
    · simp at h
    · simp only [bind_eq_ok, Except.ok.injEq, Prod.mk.injEq, Prod.exists] at h
      obtain ⟨xs, ts₁, hargs, ts₂, hclose, t', -, -, rfl⟩ := h
      obtain ⟨us, -, rfl, -⟩ := (d.sound steps).arguments hargs
      obtain ⟨p, rfl⟩ := eq_cons_of_require_closeParen hclose
      exact ((Leaves.primary us (by simp)).cons _).cons _
  · -- a name that is not called is not followed by a parenthesis
    next hcall =>
    simp only [Except.ok.injEq, Prod.mk.injEq] at h
    obtain ⟨rfl, rfl⟩ := h
    exact .primary [] fun _ _ => lexeme_ne_of_mem_head? hcall
  · simp only [bind_eq_ok, Except.ok.injEq, Prod.mk.injEq, Prod.exists] at h
    obtain ⟨t', ts₁, hinner, ts₂, hclose, rfl, rfl⟩ := h
    obtain ⟨us, -, rfl, -⟩ := (d.sound steps).conditional hinner
    obtain ⟨p, rfl⟩ := eq_cons_of_require_closeParen hclose
    exact (Leaves.primary us (by simp)).cons _
  · simp at h

lemma Exhaustive.arguments_succ (ih : d.Exhaustive steps)
    (h : d.arguments (steps + 1) n ts = .ok (xs, rest)) :
    (∃ p rest', rest = ⟨.closeParen, p⟩ :: rest') ∨
      Leaves .conditional ts rest ∧ ∀ t ∈ rest.head?, t.lexeme ≠ .comma := by
  simp only [Descent.arguments] at h
  split at h
  · simp only [Except.ok.injEq, Prod.mk.injEq] at h
    obtain ⟨-, rfl⟩ := h
    exact .inl ⟨_, _, rfl⟩
  · simp only [bind_eq_ok, Except.ok.injEq, Prod.mk.injEq, Prod.exists] at h
    obtain ⟨a, ts₁, ha, others, ts₂, hothers, -, rfl⟩ := h
    exact .inr (ih.moreArguments hothers (ih.conditional ha))

lemma Exhaustive.moreArguments_succ (ih : d.Exhaustive steps)
    (h : d.moreArguments (steps + 1) n ts = .ok (xs, rest))
    (hbefore : Leaves .conditional all ts) :
    Leaves .conditional all rest ∧ ∀ t ∈ rest.head?, t.lexeme ≠ .comma := by
  simp only [Descent.moreArguments] at h
  split at h
  · simp only [bind_eq_ok, Except.ok.injEq, Prod.mk.injEq, Prod.exists] at h
    obtain ⟨a, ts₁, ha, others, ts₂, hothers, -, rfl⟩ := h
    exact ih.moreArguments hothers (hbefore.trans_cons (ih.conditional ha))
  · next hcomma =>
    simp only [Except.ok.injEq, Prod.mk.injEq] at h
    obtain ⟨-, rfl⟩ := h
    exact ⟨hbefore, lexeme_ne_of_mem_head? hcomma⟩

end Step

/-- The functions of the descent leave only what does not continue.

**Proof sketch.** Induction on the number of steps, with one case for each function of the descent.
Each function passes on what the last function that it calls leaves, and stops where the next token
is not the one with which it would go on. -/
theorem exhaustive (d : Descent) (steps : Nat) : d.Exhaustive steps := by
  induction steps with
  | zero =>
    constructor <;> intros <;>
      simp_all [Descent.conditional, Descent.chain, Descent.chainAfter, Descent.operand,
        Descent.signed, Descent.powered, Descent.primary, Descent.arguments,
        Descent.moreArguments]
  | succ steps ih =>
    exact ⟨ih.conditional_succ, ih.chain_succ, ih.chainAfter_succ, ih.operand_succ,
      ih.signed_succ, ih.powered_succ, Exhaustive.primary_succ, ih.arguments_succ,
      ih.moreArguments_succ⟩

end Descent

end Tariff.Formula
