import Tariff.Proofs.Formula.Descent.Soundness

/-!
# Where the descent fails

Each error of the descent is raised at some place in the tokens: what is before that place has been
read, and the error is about the tokens from there on.

## Main definitions

* `Tariff.Formula.Raised` — the errors and the tokens at which they are raised.
* `Tariff.Formula.Descent.Blames` — what holds of the functions of the descent with so many steps.

## Main results

* `Tariff.Formula.Descent.blames` — the functions of the descent raise such errors only.
* `Tariff.Formula.Descent.raised_of_whole` — so does the descent through a whole formula.
-/

set_option autoImplicit false

namespace Tariff.Formula

open Tariff.Text

/-- The errors that the descent raises at some tokens, or further on in them. -/
inductive Raised (d : Descent) : List Token → Error → Prop where
  /-- no steps are left -/
  | exhausted (ts : List Token) : Raised d ts .exhausted
  /-- no depth is left for an operand -/
  | tooDeep (ts : List Token) : Raised d ts (.tooDeep d.limit (d.position ts))
  /-- a required token is not there -/
  | expected (required : Required) (ts : List Token) :
      Raised d ts (.expected required (Descent.found ts) (d.position ts))
  /-- the next token cannot stand there -/
  | unexpected (ts : List Token) :
      Raised d ts (.unexpectedToken (Descent.found ts) (d.position ts))
  /-- a name that is no function is called -/
  | unknownFunction {name : String} {p o : Nat} {ts : List Token} :
      Function.ofName? (lowerAscii name) = none →
      Raised d (⟨.name name, p⟩ :: ⟨.openParen, o⟩ :: ts) (.unknownFunction name)
  /-- a function is called with a number of arguments that it does not take -/
  | wrongCount {name : String} {f : Function} {given p o : Nat} {ts : List Token} :
      Function.ofName? (lowerAscii name) = some f → f.admits given = false →
      Raised d (⟨.name name, p⟩ :: ⟨.openParen, o⟩ :: ts) (.wrongCount f given p)
  /-- some tokens have been read before -/
  | later (us : List Token) {ts : List Token} {e : Error} : Raised d ts e → Raised d (us ++ ts) e

variable {d : Descent} {sym : Symbol} {level : Level} {n : Nat} {t : Tree} {xs : List Tree}
  {ts rest : List Token} {e : Error}

/-- What is raised after a token is raised from the token on. -/
lemma Raised.cons (h : Raised d ts e) (u : Token) : Raised d (u :: ts) e :=
  h.later [u]

/-- What is raised after an instance of a symbol is raised from its start on. -/
lemma Reads.raised (h : Reads sym n ts t rest) (he : Raised d rest e) : Raised d ts e := by
  obtain ⟨us, p, rfl, -⟩ := h
  exact he.later us

/-- What is raised after some arguments is raised from their start on. -/
lemma ReadsAll.raised {text : List (List Lexeme) → List Lexeme} (h : ReadsAll text n ts xs rest)
    (he : Raised d rest e) : Raised d ts e := by
  obtain ⟨us, args, rfl, -⟩ := h
  exact he.later us

namespace Descent

/-- A required token that is not there is the error. -/
lemma raised_of_require {required : Required} (h : d.require required ts = .error e) :
    Raised d ts e := by
  unfold require at h
  split at h
  · simp at h
  · simp at h
  · obtain rfl := Except.error.inj h
    exact .expected _ _

/-- A call fails because of its number of arguments. -/
lemma eq_wrongCount_of_call {f : Function} {p : Nat} (h : call f p xs = .error e) :
    f.admits xs.length = false ∧ e = .wrongCount f xs.length p := by
  unfold call at h
  split at h
  · simp at h
  · next hcall =>
    obtain rfl := Except.error.inj h
    have hnone := Function.isSome_call? f xs
    rw [hcall] at hnone
    exact ⟨hnone.symm, rfl⟩

/-- What the functions of the descent raise with so many steps. -/
structure Blames (d : Descent) (steps : Nat) : Prop where
  conditional : ∀ {n ts e}, d.conditional steps n ts = .error e → Raised d ts e
  chain : ∀ {n level ts e}, d.chain steps n level ts = .error e → Raised d ts e
  chainAfter : ∀ {n level left ts e}, d.chainAfter steps n level left ts = .error e →
    Raised d ts e
  operand : ∀ {n level ts e}, d.operand steps n level ts = .error e → Raised d ts e
  signed : ∀ {n ts e}, d.signed steps n ts = .error e → Raised d ts e
  powered : ∀ {n ts e}, d.powered steps n ts = .error e → Raised d ts e
  primary : ∀ {n ts e}, d.primary steps n ts = .error e → Raised d ts e
  arguments : ∀ {n ts e}, d.arguments steps n ts = .error e → Raised d ts e
  moreArguments : ∀ {n ts e}, d.moreArguments steps n ts = .error e → Raised d ts e

section Step

variable {steps : Nat}

lemma Blames.conditional_succ (ih : d.Blames steps)
    (h : d.conditional (steps + 1) n ts = .error e) : Raised d ts e := by
  simp only [Descent.conditional, bind_eq_error, Prod.exists] at h
  rcases h with h | ⟨c, ts₁, hc, h⟩
  · exact ih.chain h
  · refine ((d.sound steps).chain hc).raised ?_
    split at h
    · refine Raised.cons ?_ _
      simp only [bind_eq_error, Prod.exists] at h
      rcases h with h | ⟨a, ts₂, ha, h⟩
      · exact ih.conditional h
      refine ((d.sound steps).conditional ha).raised ?_
      rcases h with h | ⟨ts₃, hcolon, h⟩
      · exact raised_of_require h
      obtain ⟨p, rfl⟩ := eq_cons_of_require_colon hcolon
      rcases h with h | ⟨b, ts₄, -, h⟩
      · exact (ih.conditional h).cons _
      · simp at h
    · simp at h

lemma Blames.chain_succ (ih : d.Blames steps) (h : d.chain (steps + 1) n level ts = .error e) :
    Raised d ts e := by
  simp only [Descent.chain, bind_eq_error, Prod.exists] at h
  rcases h with h | ⟨left, ts₁, hleft, h⟩
  · exact ih.operand h
  · exact ((d.sound steps).operand hleft).raised (ih.chainAfter h)

lemma Blames.chainAfter_succ (ih : d.Blames steps) {left : Tree}
    (h : d.chainAfter (steps + 1) n level left ts = .error e) : Raised d ts e := by
  simp only [Descent.chainAfter] at h
  split at h
  · simp at h
  · next op ts₁ hop =>
    obtain ⟨-, p, rfl⟩ := eq_cons_of_operator? hop
    refine Raised.cons ?_ _
    simp only [bind_eq_error, Prod.exists] at h
    rcases h with h | ⟨right, ts₂, hright, h⟩
    · exact ih.operand h
    · exact ((d.sound steps).operand hright).raised (ih.chainAfter h)

lemma Blames.operand_succ (ih : d.Blames steps)
    (h : d.operand (steps + 1) n level ts = .error e) : Raised d ts e := by
  cases level with
  | comparison => exact ih.chain h
  | additive => exact ih.chain h
  | multiplicative => exact ih.signed h

lemma Blames.signed_succ (ih : d.Blames steps) (h : d.signed (steps + 1) n ts = .error e) :
    Raised d ts e := by
  cases n with
  | zero =>
    simp only [Descent.signed, Except.error.injEq] at h
    exact h ▸ .tooDeep ts
  | succ n =>
    simp only [Descent.signed] at h
    split at h
    · next sign ts₁ hsign =>
      obtain ⟨op, p, -, rfl⟩ := eq_cons_of_sign? hsign
      refine Raised.cons ?_ _
      simp only [bind_eq_error, Prod.exists] at h
      rcases h with h | ⟨o, ts₂, -, h⟩
      · exact ih.signed h
      · simp at h
    · exact ih.powered h

lemma Blames.powered_succ (ih : d.Blames steps) (h : d.powered (steps + 1) n ts = .error e) :
    Raised d ts e := by
  simp only [Descent.powered, bind_eq_error, Prod.exists] at h
  rcases h with h | ⟨b, ts₁, hb, h⟩
  · exact ih.primary h
  · refine ((d.sound steps).primary hb).raised ?_
    split at h
    · refine Raised.cons ?_ _
      simp only [bind_eq_error, Prod.exists] at h
      rcases h with h | ⟨x, ts₂, -, h⟩
      · exact ih.signed h
      · simp at h
    · simp at h

lemma Blames.primary_succ (ih : d.Blames steps) (h : d.primary (steps + 1) n ts = .error e) :
    Raised d ts e := by
  simp only [Descent.primary] at h
  split at h
  · simp at h
  · -- a parenthesis follows the name, so it is called
    next name p o ts₁ =>
    split at h
    · next hf =>
      obtain rfl := Except.error.inj h
      exact .unknownFunction hf
    · next f hf =>
      simp only [bind_eq_error, Prod.exists] at h
      rcases h with h | ⟨xs, ts₂, hargs, h⟩
      · exact ((ih.arguments h).cons _).cons _
      rcases h with h | ⟨ts₃, -, h⟩
      · exact ((((d.sound steps).arguments hargs).raised (raised_of_require h)).cons _).cons _
      rcases h with h | ⟨t, -, h⟩
      · obtain ⟨hcount, rfl⟩ := eq_wrongCount_of_call h
        exact .wrongCount hf hcount
      · simp at h
  · simp at h
  · refine Raised.cons ?_ _
    simp only [bind_eq_error, Prod.exists] at h
    rcases h with h | ⟨t, ts₁, hinner, h⟩
    · exact ih.conditional h
    refine ((d.sound steps).conditional hinner).raised ?_
    rcases h with h | ⟨ts₂, -, h⟩
    · exact raised_of_require h
    · simp at h
  · obtain rfl := Except.error.inj h
    exact .unexpected ts

lemma Blames.arguments_succ (ih : d.Blames steps)
    (h : d.arguments (steps + 1) n ts = .error e) : Raised d ts e := by
  simp only [Descent.arguments] at h
  split at h
  · simp at h
  · simp only [bind_eq_error, Prod.exists] at h
    rcases h with h | ⟨a, ts₁, ha, h⟩
    · exact ih.conditional h
    refine ((d.sound steps).conditional ha).raised ?_
    rcases h with h | ⟨others, ts₂, -, h⟩
    · exact ih.moreArguments h
    · simp at h

lemma Blames.moreArguments_succ (ih : d.Blames steps)
    (h : d.moreArguments (steps + 1) n ts = .error e) : Raised d ts e := by
  simp only [Descent.moreArguments] at h
  split at h
  · refine Raised.cons ?_ _
    simp only [bind_eq_error, Prod.exists] at h
    rcases h with h | ⟨a, ts₁, ha, h⟩
    · exact ih.conditional h
    refine ((d.sound steps).conditional ha).raised ?_
    rcases h with h | ⟨others, ts₂, -, h⟩
    · exact ih.moreArguments h
    · simp at h
  · simp at h

end Step

/-- The functions of the descent raise their errors somewhere in the tokens.

**Proof sketch.** Induction on the number of steps, with one case for each function of the descent.
What is read before the error is taken off the tokens by soundness (`Descent.sound`). -/
theorem blames (d : Descent) (steps : Nat) : d.Blames steps := by
  induction steps with
  | zero =>
    constructor <;> intros <;> rename_i h <;>
      simp only [Descent.conditional, Descent.chain, Descent.chainAfter, Descent.operand,
        Descent.signed, Descent.powered, Descent.primary, Descent.arguments,
        Descent.moreArguments, Except.error.injEq] at h <;>
      exact h ▸ .exhausted _
  | succ steps ih =>
    exact ⟨ih.conditional_succ, ih.chain_succ, ih.chainAfter_succ, ih.operand_succ,
      ih.signed_succ, ih.powered_succ, ih.primary_succ, ih.arguments_succ, ih.moreArguments_succ⟩

/-- The descent through a whole formula raises its errors somewhere in the tokens. -/
theorem raised_of_whole (h : d.whole ts = .error e) : Raised d ts e := by
  simp only [whole, bind_eq_error, Prod.exists] at h
  rcases h with h | ⟨t, rest, hread, h⟩
  · exact (d.blames _).conditional h
  · refine ((d.sound _).conditional hread).raised ?_
    split at h
    · simp at h
    · obtain rfl := Except.error.inj h
      exact .unexpected rest

end Descent

end Tariff.Formula
