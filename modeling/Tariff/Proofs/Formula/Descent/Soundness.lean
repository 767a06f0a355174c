import Tariff.Proofs.Formula.Grammar
import Tariff.Proofs.Outcome

/-!
# What the descent reads is derivable

Whatever a function of the descent takes off the front of the tokens is an instance of its symbol,
and the tree it returns is the one the derived phrase stands for. The depth that is left to the
function bounds the depth of the phrase.

## Main definitions

* `Tariff.Formula.Reads` — some tokens start with an instance of a symbol.
* `Tariff.Formula.Descent.Sound` — what holds of the functions of the descent with so many steps.

## Main results

* `Tariff.Formula.Descent.sound` — every number of steps is sound.
* `Tariff.Formula.Descent.derives_of_whole` — the tokens of a whole formula are derivable.
-/

set_option autoImplicit false

namespace Tariff.Formula

open Tariff.Text

/-- The tokens `ts` are an instance of a symbol with the tree `t`, nested no deeper than `bound`,
and then `rest`. -/
def Reads (sym : Symbol) (bound : Nat) (ts : List Token) (t : Tree) (rest : List Token) : Prop :=
  ∃ us p, ts = us ++ rest ∧ Derives sym (us.map Token.lexeme) p ∧ p.tree? = some t ∧
    p.depth ≤ bound

/-- The tokens `ts` are some arguments with the trees `xs`, written as `text` puts them together,
and then `rest`. -/
def ReadsAll (text : List (List Lexeme) → List Lexeme) (bound : Nat) (ts : List Token)
    (xs : List Tree) (rest : List Token) : Prop :=
  ∃ us, ∃ args : List (List Lexeme × Phrase),
    ts = us ++ rest ∧ us.map Token.lexeme = text (args.map (·.1)) ∧
    (∀ a ∈ args, Derives .conditional a.1 a.2) ∧
    Phrase.trees? (args.map (·.2)) = some xs ∧ Phrase.depthOfAll (args.map (·.2)) ≤ bound

namespace Reads

variable {sym sym' : Symbol} {level : Level} {n p q : Nat} {op : Operator} {name : String}
  {sign : Sign} {t l r c a b : Tree} {xs : List Tree} {ts ts₁ ts₂ ts₃ rest : List Token}

/-! ### The rules of the grammar on tokens -/

/-- A symbol that derives all that another one derives also reads all that it reads. -/
lemma imp (hsym : ∀ {ls p}, Derives sym ls p → Derives sym' ls p) (h : Reads sym n ts t rest) :
    Reads sym' n ts t rest := by
  obtain ⟨us, p, rfl, hp, ht, hn⟩ := h
  exact ⟨us, p, rfl, hsym hp, ht, hn⟩

/-- A choice is read where its condition, its marks and its two values are. -/
lemma choice (hc : Reads (.chain .comparison) n ts c (⟨.question, p⟩ :: ts₁))
    (ha : Reads .conditional n ts₁ a (⟨.colon, q⟩ :: ts₂)) (hb : Reads .conditional n ts₂ b rest) :
    Reads .conditional n ts (.choice c a b) rest := by
  obtain ⟨us, pc, rfl, hpc, htc, hnc⟩ := hc
  obtain ⟨vs, pa, rfl, hpa, hta, hna⟩ := ha
  obtain ⟨ws, pb, rfl, hpb, htb, hnb⟩ := hb
  refine ⟨us ++ ⟨.question, p⟩ :: (vs ++ ⟨.colon, q⟩ :: ws), .choice pc pa pb, by simp, ?_, ?_, ?_⟩
  · simpa using Derives.choice hpc hpa hpb
  · simp [Phrase.tree?, htc, hta, htb]
  · simp only [Phrase.depth]
    omega

/-- A chain is read on across an operator of its level and an operand. -/
lemma binary (hl : Reads (.chain level) n ts l (⟨.operator op, p⟩ :: ts₁))
    (hop : op.level? = some level) (hr : Reads level.operand n ts₁ r rest) :
    Reads (.chain level) n ts (.binary op l r) rest := by
  obtain ⟨us, pl, rfl, hpl, htl, hnl⟩ := hl
  obtain ⟨vs, pr, rfl, hpr, htr, hnr⟩ := hr
  refine ⟨us ++ ⟨.operator op, p⟩ :: vs, .binary op pl pr, by simp, ?_, ?_, ?_⟩
  · simpa using Derives.binary hpl hop hpr
  · simp [Phrase.tree?, htl, htr]
  · simp only [Phrase.depth]
    omega

/-- An operand with a sign is read one deeper than the operand. -/
lemma signed (hsign : op.sign? = some sign) (h : Reads .signed n ts t rest) :
    Reads .signed (n + 1) (⟨.operator op, p⟩ :: ts) (.signed sign t) rest := by
  obtain ⟨us, po, rfl, hpo, hto, hno⟩ := h
  refine ⟨⟨.operator op, p⟩ :: us, .signed sign po, by simp, ?_, ?_, ?_⟩
  · simpa using Derives.signed hsign hpo
  · simp [Phrase.tree?, hto]
  · simp only [Phrase.depth]
    omega

/-- A power is read where its base and its exponent are, the exponent one deeper. -/
lemma power (hb : Reads .primary (n + 1) ts b (⟨.operator .pow, p⟩ :: ts₁))
    (he : Reads .signed n ts₁ t rest) : Reads .powered (n + 1) ts (.binary .pow b t) rest := by
  obtain ⟨us, pb, rfl, hpb, htb, hnb⟩ := hb
  obtain ⟨vs, pe, rfl, hpe, hte, hne⟩ := he
  refine ⟨us ++ ⟨.operator .pow, p⟩ :: vs, .power pb pe, by simp, ?_, ?_, ?_⟩
  · simpa using Derives.power hpb hpe
  · simp [Phrase.tree?, htb, hte]
  · simp only [Phrase.depth]
    omega

/-- Parentheses are read one deeper than what they hold. -/
lemma group (h : Reads .conditional n ts t (⟨.closeParen, q⟩ :: rest)) :
    Reads .primary (n + 1) (⟨.openParen, p⟩ :: ts) t rest := by
  obtain ⟨us, pi, rfl, hpi, hti, hni⟩ := h
  refine ⟨⟨.openParen, p⟩ :: (us ++ [⟨.closeParen, q⟩]), .group pi, by simp, ?_, ?_, ?_⟩
  · simpa using Derives.group hpi
  · simpa [Phrase.tree?] using hti
  · simp only [Phrase.depth]
    omega

/-- A number is read. -/
lemma number (digits : String) :
    Reads .primary (n + 1) (⟨.number digits, p⟩ :: rest) (Descent.numberTree digits) rest :=
  ⟨[⟨.number digits, p⟩], .number digits, rfl, .number digits, rfl, by simp [Phrase.depth]⟩

/-- A name is read. -/
lemma word (name : String) :
    Reads .primary (n + 1) (⟨.name name, p⟩ :: rest) (Descent.meaning name) rest :=
  ⟨[⟨.name name, p⟩], .word name, rfl, .word name, rfl, by simp [Phrase.depth]⟩

/-- A call is read one deeper than its arguments, if the function takes as many. -/
lemma call {f : Function} {o : Nat} (hf : Function.ofName? (lowerAscii name) = some f)
    (h : ReadsAll separated n ts xs (⟨.closeParen, q⟩ :: rest)) (ht : f.call? xs = some t) :
    Reads .primary (n + 1) (⟨.name name, p⟩ :: ⟨.openParen, o⟩ :: ts) t rest := by
  obtain ⟨us, args, rfl, hus, hargs, hxs, hn⟩ := h
  refine ⟨⟨.name name, p⟩ :: ⟨.openParen, o⟩ :: (us ++ [⟨.closeParen, q⟩]),
    .call name (args.map (·.2)), by simp, ?_, ?_, ?_⟩
  · simpa [hus] using Derives.call name hargs
  · simp [Phrase.tree?, hf, hxs, ht]
  · simp only [Phrase.depth]
    omega

end Reads

namespace ReadsAll

variable {n p : Nat} {t : Tree} {xs : List Tree} {ts ts₁ rest : List Token}

/-- No arguments are read off anything. -/
lemma nil {text : List (List Lexeme) → List Lexeme} (htext : text [] = []) :
    ReadsAll text n rest [] rest :=
  ⟨[], [], rfl, by simp [htext], by simp, rfl, by simp [Phrase.depthOfAll]⟩

/-- The first argument of a call stands by itself, and the others follow it. -/
lemma first (h : Reads .conditional n ts t ts₁)
    (hs : ReadsAll (List.flatMap (.comma :: ·)) n ts₁ xs rest) :
    ReadsAll separated n ts (t :: xs) rest := by
  obtain ⟨us, pa, rfl, hpa, hta, hna⟩ := h
  obtain ⟨vs, args, rfl, hvs, hargs, hxs, hn⟩ := hs
  refine ⟨us ++ vs, (us.map Token.lexeme, pa) :: args, by simp, ?_, ?_, ?_, ?_⟩
  · simp [separated, hvs]
  · simpa [hpa] using hargs
  · simp [Phrase.trees?, hta, hxs]
  · simp only [List.map_cons, Phrase.depthOfAll]
    omega

/-- Each further argument follows a comma. -/
lemma next (h : Reads .conditional n ts t ts₁)
    (hs : ReadsAll (List.flatMap (.comma :: ·)) n ts₁ xs rest) :
    ReadsAll (List.flatMap (.comma :: ·)) n (⟨.comma, p⟩ :: ts) (t :: xs) rest := by
  obtain ⟨us, pa, rfl, hpa, hta, hna⟩ := h
  obtain ⟨vs, args, rfl, hvs, hargs, hxs, hn⟩ := hs
  refine ⟨⟨.comma, p⟩ :: (us ++ vs), (us.map Token.lexeme, pa) :: args, by simp, ?_, ?_, ?_, ?_⟩
  · simp [hvs]
  · simpa [hpa] using hargs
  · simp [Phrase.trees?, hta, hxs]
  · simp only [List.map_cons, Phrase.depthOfAll]
    omega

end ReadsAll

namespace Descent

/-! ### Taking single tokens -/

variable {d : Descent} {level : Level} {op : Operator} {sign : Sign} {f : Function} {t : Tree}
  {xs : List Tree} {ts rest : List Token}

/-- A closing parenthesis that has to be there is the next token. -/
lemma eq_cons_of_require_closeParen (h : d.require .closeParen ts = .ok rest) :
    ∃ p, ts = ⟨.closeParen, p⟩ :: rest := by
  unfold require at h
  split at h <;> simp_all

/-- A colon that has to be there is the next token. -/
lemma eq_cons_of_require_colon (h : d.require .colon ts = .ok rest) :
    ∃ p, ts = ⟨.colon, p⟩ :: rest := by
  unfold require at h
  split at h <;> simp_all

/-- An operator of a level that is found is the next token. -/
lemma eq_cons_of_operator? (h : operator? level ts = some (op, rest)) :
    op.level? = some level ∧ ∃ p, ts = ⟨.operator op, p⟩ :: rest := by
  unfold operator? at h
  split at h
  · split at h <;> simp_all
  · simp at h

/-- A sign that is found is the next token. -/
lemma eq_cons_of_sign? (h : sign? ts = some (sign, rest)) :
    ∃ op p, op.sign? = some sign ∧ ts = ⟨.operator op, p⟩ :: rest := by
  unfold sign? at h
  split at h
  · simp only [Option.map_eq_some_iff, Prod.mk.injEq] at h
    obtain ⟨s, hs, rfl, rfl⟩ := h
    exact ⟨_, _, hs, rfl⟩
  · simp at h

/-- A call that is made is a call of the function with as many arguments as it takes. -/
lemma call?_of_call {p : Nat} (h : call f p xs = .ok t) : f.call? xs = some t := by
  unfold call at h
  split at h <;> simp_all

/-! ### The functions of the descent -/

/-- What the functions of the descent return with so many steps is read by the grammar. A power
and a primary stand one deeper than the depth that is left to them. -/
structure Sound (d : Descent) (steps : Nat) : Prop where
  conditional : ∀ {n ts t rest}, d.conditional steps n ts = .ok (t, rest) →
    Reads .conditional n ts t rest
  chain : ∀ {n level ts t rest}, d.chain steps n level ts = .ok (t, rest) →
    Reads (.chain level) n ts t rest
  chainAfter : ∀ {n level left all ts t rest}, d.chainAfter steps n level left ts = .ok (t, rest) →
    Reads (.chain level) n all left ts → Reads (.chain level) n all t rest
  operand : ∀ {n level ts t rest}, d.operand steps n level ts = .ok (t, rest) →
    Reads level.operand n ts t rest
  signed : ∀ {n ts t rest}, d.signed steps n ts = .ok (t, rest) → Reads .signed n ts t rest
  powered : ∀ {n ts t rest}, d.powered steps n ts = .ok (t, rest) →
    Reads .powered (n + 1) ts t rest
  primary : ∀ {n ts t rest}, d.primary steps n ts = .ok (t, rest) →
    Reads .primary (n + 1) ts t rest
  arguments : ∀ {n ts xs rest}, d.arguments steps n ts = .ok (xs, rest) →
    ReadsAll separated n ts xs rest
  moreArguments : ∀ {n ts xs rest}, d.moreArguments steps n ts = .ok (xs, rest) →
    ReadsAll (List.flatMap (.comma :: ·)) n ts xs rest

section Step

variable {steps n : Nat}

lemma Sound.conditional_succ (ih : d.Sound steps)
    (h : d.conditional (steps + 1) n ts = .ok (t, rest)) : Reads .conditional n ts t rest := by
  simp only [Descent.conditional, bind_eq_ok, Prod.exists] at h
  obtain ⟨c, ts₁, hc, h⟩ := h
  replace hc := ih.chain hc
  split at h
  · -- a question mark follows, so a choice is read
    simp only [bind_eq_ok, Except.ok.injEq, Prod.mk.injEq, Prod.exists] at h
    obtain ⟨a, ts₂, ha, ts₃, hcolon, b, ts₄, hb, rfl, rfl⟩ := h
    obtain ⟨p, rfl⟩ := eq_cons_of_require_colon hcolon
    exact hc.choice (ih.conditional ha) (ih.conditional hb)
  · simp only [Except.ok.injEq, Prod.mk.injEq] at h
    obtain ⟨rfl, rfl⟩ := h
    exact hc.imp .plain

lemma Sound.chain_succ (ih : d.Sound steps) (h : d.chain (steps + 1) n level ts = .ok (t, rest)) :
    Reads (.chain level) n ts t rest := by
  simp only [Descent.chain, bind_eq_ok, Prod.exists] at h
  obtain ⟨left, ts₁, hleft, h⟩ := h
  exact ih.chainAfter h ((ih.operand hleft).imp .single)

lemma Sound.chainAfter_succ (ih : d.Sound steps) {left : Tree} {all : List Token}
    (h : d.chainAfter (steps + 1) n level left ts = .ok (t, rest))
    (hleft : Reads (.chain level) n all left ts) : Reads (.chain level) n all t rest := by
  simp only [Descent.chainAfter] at h
  split at h
  · simp only [Except.ok.injEq, Prod.mk.injEq] at h
    obtain ⟨rfl, rfl⟩ := h
    exact hleft
  · next op ts₁ hop =>
    simp only [bind_eq_ok, Prod.exists] at h
    obtain ⟨right, ts₂, hright, h⟩ := h
    obtain ⟨hlevel, p, rfl⟩ := eq_cons_of_operator? hop
    exact ih.chainAfter h (hleft.binary hlevel (ih.operand hright))

lemma Sound.operand_succ (ih : d.Sound steps)
    (h : d.operand (steps + 1) n level ts = .ok (t, rest)) : Reads level.operand n ts t rest := by
  cases level with
  | comparison => exact ih.chain h
  | additive => exact ih.chain h
  | multiplicative => exact ih.signed h

lemma Sound.signed_succ (ih : d.Sound steps) (h : d.signed (steps + 1) n ts = .ok (t, rest)) :
    Reads .signed n ts t rest := by
  cases n with
  | zero => simp [Descent.signed] at h
  | succ n =>
    simp only [Descent.signed] at h
    split at h
    · next sign ts₁ hsign =>
      simp only [bind_eq_ok, Except.ok.injEq, Prod.mk.injEq, Prod.exists] at h
      obtain ⟨o, ts₂, ho, rfl, rfl⟩ := h
      obtain ⟨op, p, hop, rfl⟩ := eq_cons_of_sign? hsign
      exact (ih.signed ho).signed hop
    · exact (ih.powered h).imp .unsigned

lemma Sound.powered_succ (ih : d.Sound steps) (h : d.powered (steps + 1) n ts = .ok (t, rest)) :
    Reads .powered (n + 1) ts t rest := by
  simp only [Descent.powered, bind_eq_ok, Prod.exists] at h
  obtain ⟨b, ts₁, hb, h⟩ := h
  replace hb := ih.primary hb
  split at h
  · simp only [bind_eq_ok, Except.ok.injEq, Prod.mk.injEq, Prod.exists] at h
    obtain ⟨e, ts₂, he, rfl, rfl⟩ := h
    exact hb.power (ih.signed he)
  · simp only [Except.ok.injEq, Prod.mk.injEq] at h
    obtain ⟨rfl, rfl⟩ := h
    exact hb.imp .base

lemma Sound.primary_succ (ih : d.Sound steps) (h : d.primary (steps + 1) n ts = .ok (t, rest)) :
    Reads .primary (n + 1) ts t rest := by
  simp only [Descent.primary] at h
  split at h
  · simp only [Except.ok.injEq, Prod.mk.injEq] at h
    obtain ⟨rfl, rfl⟩ := h
    exact .number _
  · -- a parenthesis follows the name, so it is called
    split at h
    · simp at h
    · next f hf =>
      simp only [bind_eq_ok, Except.ok.injEq, Prod.mk.injEq, Prod.exists] at h
      obtain ⟨xs, ts₁, hargs, ts₂, hclose, t', hcall, rfl, rfl⟩ := h
      obtain ⟨p, rfl⟩ := eq_cons_of_require_closeParen hclose
      exact .call hf (ih.arguments hargs) (call?_of_call hcall)
  · simp only [Except.ok.injEq, Prod.mk.injEq] at h
    obtain ⟨rfl, rfl⟩ := h
    exact .word _
  · simp only [bind_eq_ok, Except.ok.injEq, Prod.mk.injEq, Prod.exists] at h
    obtain ⟨t', ts₁, hinner, ts₂, hclose, rfl, rfl⟩ := h
    obtain ⟨p, rfl⟩ := eq_cons_of_require_closeParen hclose
    exact (ih.conditional hinner).group
  · simp at h

lemma Sound.arguments_succ (ih : d.Sound steps)
    (h : d.arguments (steps + 1) n ts = .ok (xs, rest)) : ReadsAll separated n ts xs rest := by
  simp only [Descent.arguments] at h
  split at h
  · simp only [Except.ok.injEq, Prod.mk.injEq] at h
    obtain ⟨rfl, rfl⟩ := h
    exact .nil rfl
  · simp only [bind_eq_ok, Except.ok.injEq, Prod.mk.injEq, Prod.exists] at h
    obtain ⟨a, ts₁, ha, others, ts₂, hothers, rfl, rfl⟩ := h
    exact .first (ih.conditional ha) (ih.moreArguments hothers)

lemma Sound.moreArguments_succ (ih : d.Sound steps)
    (h : d.moreArguments (steps + 1) n ts = .ok (xs, rest)) :
    ReadsAll (List.flatMap (.comma :: ·)) n ts xs rest := by
  simp only [Descent.moreArguments] at h
  split at h
  · simp only [bind_eq_ok, Except.ok.injEq, Prod.mk.injEq, Prod.exists] at h
    obtain ⟨a, ts₁, ha, others, ts₂, hothers, rfl, rfl⟩ := h
    exact .next (ih.conditional ha) (ih.moreArguments hothers)
  · simp only [Except.ok.injEq, Prod.mk.injEq] at h
    obtain ⟨rfl, rfl⟩ := h
    exact .nil rfl

end Step

/-- Every number of steps is sound.

**Proof sketch.** Induction on the number of steps, with one case for each function of the descent.
Without steps left none of them returns anything. -/
theorem sound (d : Descent) (steps : Nat) : d.Sound steps := by
  induction steps with
  | zero =>
    constructor <;> intros <;>
      simp_all [Descent.conditional, Descent.chain, Descent.chainAfter, Descent.operand,
        Descent.signed, Descent.powered, Descent.primary, Descent.arguments,
        Descent.moreArguments]
  | succ steps ih =>
    exact ⟨ih.conditional_succ, ih.chain_succ, ih.chainAfter_succ, ih.operand_succ,
      ih.signed_succ, ih.powered_succ, ih.primary_succ, ih.arguments_succ, ih.moreArguments_succ⟩

/-- The tokens of a whole formula are derivable, as deep as the limit permits. -/
theorem derives_of_whole (h : d.whole ts = .ok t) :
    ∃ p, Derives .conditional (ts.map Token.lexeme) p ∧ p.tree? = some t ∧
      p.depth ≤ d.limit.toNat := by
  simp only [whole, bind_eq_ok, Prod.exists] at h
  obtain ⟨t', rest, hread, h⟩ := h
  split at h
  · simp only [Except.ok.injEq] at h
    obtain ⟨us, p, rfl, hp, ht, hn⟩ := (d.sound _).conditional hread
    subst h
    exact ⟨p, by simpa using hp, ht, hn⟩
  · simp at h

end Descent

end Tariff.Formula
