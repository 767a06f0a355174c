import Tariff.Formula.Parser
import Tariff.Proofs.Formula.Spacing

/-!
# What the places of tokens change

The descent looks at the lexemes of the tokens; their places show in its errors only. So two
descents through the same lexemes with the same limit read the same tree, or they fail for the same
cause.

## Main definitions

* `Tariff.Formula.Error.unplaced` — an error without its place.
* `Tariff.Formula.ReadAlike` — two computations read the same, or they fail for the same cause.
* `Tariff.Formula.Descent.Corresponds` — what holds of the functions of two descents with so many
  steps.

## Main results

* `Tariff.Formula.Descent.corresponds` — the functions of two descents correspond.
* `Tariff.Formula.Descent.alike_whole` — so do the descents through a whole formula.
-/

set_option autoImplicit false

namespace Tariff.Formula

open Tariff.Text

/-! ### Computations that read the same -/

/-- An error with its place set to the start. -/
def Error.unplaced : Error → Error
  | unexpectedCharacter c _ => unexpectedCharacter c 0
  | unexpectedToken found _ => unexpectedToken found 0
  | expected required found _ => expected required found 0
  | wrongCount f given _ => wrongCount f given 0
  | tooDeep limit _ => tooDeep limit 0
  | e => e

/-- Two errors have the same cause: they differ in their places at most. -/
def SameCause (e e' : Error) : Prop :=
  e.unplaced = e'.unplaced

/-- Two computations read the same and leave the same lexemes, or they fail for the same cause. -/
def ReadAlike {α : Type} : Except Error (Parsed α) → Except Error (Parsed α) → Prop :=
  Alike SameCause fun x y => x.1 = y.1 ∧ SameLexemes x.2 y.2

namespace ReadAlike

variable {α β γ : Type} {x y : Except Error (Parsed α)} {S : β → γ → Prop}

/-- The same is read with the same lexemes left. -/
lemma ok (a : α) {ts us : List Token} (h : SameLexemes ts us) :
    ReadAlike (.ok (a, ts)) (.ok (a, us)) :=
  Alike.ok ⟨rfl, h⟩

/-- After the same was read, the next steps start from it with the same lexemes left. -/
lemma bind {f : Parsed α → Except Error β} {g : Parsed α → Except Error γ} (h : ReadAlike x y)
    (hfg : ∀ a ts us, SameLexemes ts us → Alike SameCause S (f (a, ts)) (g (a, us))) :
    Alike SameCause S (x >>= f) (y >>= g) := by
  refine Alike.bind h fun ⟨a, ts⟩ ⟨b, us⟩ ⟨hab, hrest⟩ => ?_
  obtain rfl : a = b := hab
  exact hfg a ts us hrest

end ReadAlike

namespace Descent

variable {d d' : Descent} {steps n : Nat} {level : Level} {ts us : List Token}

/-! ### Single tokens -/

/-- The same token is required of the same lexemes. -/
lemma alike_require (h : SameLexemes ts us) (required : Required) :
    Alike SameCause SameLexemes (d.require required ts) (d'.require required us) := by
  obtain ⟨rfl, rfl⟩ | ⟨l, p, q, ts, us, rfl, rfl, htail⟩ := h.cases
  · exact .error rfl
  · cases l with
    | closeParen =>
      cases required with
      | closeParen => exact .ok htail
      | colon => exact .error rfl
    | colon =>
      cases required with
      | closeParen => exact .error rfl
      | colon => exact .ok htail
    | _ => exact .error rfl

/-- The same lexemes start with the same operator of a level, or with none. -/
lemma operator?_cases (h : SameLexemes ts us) (level : Level) :
    operator? level ts = none ∧ operator? level us = none ∨
      ∃ op ts' us', operator? level ts = some (op, ts') ∧ operator? level us = some (op, us') ∧
        SameLexemes ts' us' := by
  obtain ⟨rfl, rfl⟩ | ⟨l, p, q, ts, us, rfl, rfl, htail⟩ := h.cases
  · exact .inl ⟨rfl, rfl⟩
  · cases l with
    | operator op =>
      by_cases hop : op.level? = some level
      · exact .inr ⟨op, ts, us, if_pos hop, if_pos hop, htail⟩
      · exact .inl ⟨if_neg hop, if_neg hop⟩
    | _ => exact .inl ⟨rfl, rfl⟩

/-- The same lexemes start with the same sign, or with none. -/
lemma sign?_cases (h : SameLexemes ts us) :
    sign? ts = none ∧ sign? us = none ∨
      ∃ sign ts' us', sign? ts = some (sign, ts') ∧ sign? us = some (sign, us') ∧
        SameLexemes ts' us' := by
  obtain ⟨rfl, rfl⟩ | ⟨l, p, q, ts, us, rfl, rfl, htail⟩ := h.cases
  · exact .inl ⟨rfl, rfl⟩
  · cases l with
    | operator op =>
      cases hop : op.sign? with
      | none => exact .inl ⟨by simp [sign?, hop], by simp [sign?, hop]⟩
      | some sign => exact .inr ⟨sign, ts, us, by simp [sign?, hop], by simp [sign?, hop], htail⟩
    | _ => exact .inl ⟨rfl, rfl⟩

/-- A call of a function comes out alike at any two places. -/
lemma alike_call (f : Function) (p q : Nat) (args : List Tree) :
    Alike SameCause Eq (call f p args) (call f q args) := by
  unfold call
  split
  · exact .ok rfl
  · exact .error rfl

/-! ### Steps -/

/-- What holds of the functions of two descents with so many steps, through the same lexemes. -/
structure Corresponds (d d' : Descent) (steps : Nat) : Prop where
  conditional : ∀ {n ts us}, SameLexemes ts us →
    ReadAlike (d.conditional steps n ts) (d'.conditional steps n us)
  chain : ∀ {n level ts us}, SameLexemes ts us →
    ReadAlike (d.chain steps n level ts) (d'.chain steps n level us)
  chainAfter : ∀ {n level left ts us}, SameLexemes ts us →
    ReadAlike (d.chainAfter steps n level left ts) (d'.chainAfter steps n level left us)
  operand : ∀ {n level ts us}, SameLexemes ts us →
    ReadAlike (d.operand steps n level ts) (d'.operand steps n level us)
  signed : ∀ {n ts us}, SameLexemes ts us →
    ReadAlike (d.signed steps n ts) (d'.signed steps n us)
  powered : ∀ {n ts us}, SameLexemes ts us →
    ReadAlike (d.powered steps n ts) (d'.powered steps n us)
  primary : ∀ {n ts us}, SameLexemes ts us →
    ReadAlike (d.primary steps n ts) (d'.primary steps n us)
  arguments : ∀ {n ts us}, SameLexemes ts us →
    ReadAlike (d.arguments steps n ts) (d'.arguments steps n us)
  moreArguments : ∀ {n ts us}, SameLexemes ts us →
    ReadAlike (d.moreArguments steps n ts) (d'.moreArguments steps n us)

section Step

lemma Corresponds.conditional_succ (ih : d.Corresponds d' steps) (h : SameLexemes ts us) :
    ReadAlike (d.conditional (steps + 1) n ts) (d'.conditional (steps + 1) n us) := by
  rw [Descent.conditional, Descent.conditional]
  refine (ih.chain h).bind fun c ts us h => ?_
  obtain ⟨rfl, rfl⟩ | ⟨l, p, q, ts, us, rfl, rfl, htail⟩ := h.cases
  · exact ReadAlike.ok c h
  · cases l with
    | question =>
      refine (ih.conditional htail).bind fun a ts us h => ?_
      refine (alike_require h .colon).bind fun ts us h => ?_
      exact (ih.conditional h).bind fun b _ _ h => ReadAlike.ok (Tree.choice c a b) h
    | _ => exact ReadAlike.ok c h

lemma Corresponds.chain_succ (ih : d.Corresponds d' steps) (h : SameLexemes ts us) :
    ReadAlike (d.chain (steps + 1) n level ts) (d'.chain (steps + 1) n level us) := by
  rw [Descent.chain, Descent.chain]
  exact (ih.operand h).bind fun _ _ _ h => ih.chainAfter h

lemma Corresponds.chainAfter_succ (ih : d.Corresponds d' steps) {left : Tree}
    (h : SameLexemes ts us) : ReadAlike (d.chainAfter (steps + 1) n level left ts)
      (d'.chainAfter (steps + 1) n level left us) := by
  rw [Descent.chainAfter, Descent.chainAfter]
  obtain ⟨hts, hus⟩ | ⟨op, ts', us', hts, hus, hrest⟩ := operator?_cases h level
  · rw [hts, hus]
    exact ReadAlike.ok left h
  · rw [hts, hus]
    exact (ih.operand hrest).bind fun _ _ _ h => ih.chainAfter h

lemma Corresponds.operand_succ (ih : d.Corresponds d' steps) (h : SameLexemes ts us) :
    ReadAlike (d.operand (steps + 1) n level ts) (d'.operand (steps + 1) n level us) := by
  cases level with
  | comparison => exact ih.chain h
  | additive => exact ih.chain h
  | multiplicative => exact ih.signed h

lemma Corresponds.signed_succ (ih : d.Corresponds d' steps) (hlimit : d.limit = d'.limit)
    (h : SameLexemes ts us) :
    ReadAlike (d.signed (steps + 1) n ts) (d'.signed (steps + 1) n us) := by
  cases n with
  | zero =>
    -- no depth is left, and the error names the limit
    rw [Descent.signed, Descent.signed, hlimit]
    exact Alike.error rfl
  | succ n =>
    rw [Descent.signed, Descent.signed]
    obtain ⟨hts, hus⟩ | ⟨sign, ts', us', hts, hus, hrest⟩ := sign?_cases h
    · rw [hts, hus]
      exact ih.powered h
    · rw [hts, hus]
      exact (ih.signed hrest).bind fun t _ _ h => ReadAlike.ok (Tree.signed sign t) h

lemma Corresponds.powered_succ (ih : d.Corresponds d' steps) (h : SameLexemes ts us) :
    ReadAlike (d.powered (steps + 1) n ts) (d'.powered (steps + 1) n us) := by
  rw [Descent.powered, Descent.powered]
  refine (ih.primary h).bind fun b ts us h => ?_
  obtain ⟨rfl, rfl⟩ | ⟨l, p, q, ts, us, rfl, rfl, htail⟩ := h.cases
  · exact ReadAlike.ok b h
  · cases l with
    | operator op =>
      cases op with
      | pow =>
        exact (ih.signed htail).bind fun e _ _ h => ReadAlike.ok (Tree.binary .pow b e) h
      | _ => exact ReadAlike.ok b h
    | _ => exact ReadAlike.ok b h

lemma Corresponds.primary_succ (ih : d.Corresponds d' steps) (h : SameLexemes ts us) :
    ReadAlike (d.primary (steps + 1) n ts) (d'.primary (steps + 1) n us) := by
  obtain ⟨rfl, rfl⟩ | ⟨l, p, q, ts, us, rfl, rfl, htail⟩ := h.cases
  · exact Alike.error rfl
  · cases l with
    | number digits => exact ReadAlike.ok (numberTree digits) htail
    | name name =>
      obtain ⟨rfl, rfl⟩ | ⟨m, p', q', ts, us, rfl, rfl, hargs⟩ := htail.cases
      · exact ReadAlike.ok (meaning name) htail
      · cases m with
        | openParen =>
          simp only [Descent.primary]
          cases Function.ofName? (lowerAscii name) with
          | none => exact Alike.error rfl
          | some f =>
            refine (ih.arguments hargs).bind fun args ts us h => ?_
            refine (alike_require h .closeParen).bind fun ts us h => ?_
            refine (alike_call f p q args).bind fun t _ ht => ?_
            exact ht ▸ ReadAlike.ok t h
        | _ => exact ReadAlike.ok (meaning name) htail
    | openParen =>
      simp only [Descent.primary]
      refine (ih.conditional htail).bind fun t ts us h => ?_
      exact (alike_require h .closeParen).bind fun _ _ h => ReadAlike.ok t h
    | _ => exact Alike.error rfl

lemma Corresponds.arguments_succ (ih : d.Corresponds d' steps) (h : SameLexemes ts us) :
    ReadAlike (d.arguments (steps + 1) n ts) (d'.arguments (steps + 1) n us) := by
  have hsome : ReadAlike
      (d.conditional steps n ts >>= fun x => d.moreArguments steps n x.2 >>= fun y =>
        .ok (x.1 :: y.1, y.2))
      (d'.conditional steps n us >>= fun x => d'.moreArguments steps n x.2 >>= fun y =>
        .ok (x.1 :: y.1, y.2)) :=
    (ih.conditional h).bind fun x _ _ h =>
      (ih.moreArguments h).bind fun xs _ _ h => ReadAlike.ok (x :: xs) h
  obtain ⟨rfl, rfl⟩ | ⟨l, p, q, ts, us, rfl, rfl, -⟩ := h.cases
  · exact hsome
  · cases l with
    | closeParen => exact ReadAlike.ok [] h
    | _ => exact hsome

lemma Corresponds.moreArguments_succ (ih : d.Corresponds d' steps) (h : SameLexemes ts us) :
    ReadAlike (d.moreArguments (steps + 1) n ts) (d'.moreArguments (steps + 1) n us) := by
  obtain ⟨rfl, rfl⟩ | ⟨l, p, q, ts, us, rfl, rfl, htail⟩ := h.cases
  · exact ReadAlike.ok [] h
  · cases l with
    | comma =>
      exact (ih.conditional htail).bind fun x _ _ h =>
        (ih.moreArguments h).bind fun xs _ _ h => ReadAlike.ok (x :: xs) h
    | _ => exact ReadAlike.ok [] h

end Step

/-- The functions of two descents with the same limit correspond.

**Proof sketch.** Induction on the number of steps, with one case for each function of the descent.
Each looks at the lexemes of one or two tokens, which are the same, and passes on what its steps do
(`ReadAlike.bind`). -/
theorem corresponds (hlimit : d.limit = d'.limit) (steps : Nat) : d.Corresponds d' steps := by
  induction steps with
  | zero =>
    constructor <;> intros <;>
      simp only [Descent.conditional, Descent.chain, Descent.chainAfter, Descent.operand,
        Descent.signed, Descent.powered, Descent.primary, Descent.arguments,
        Descent.moreArguments] <;>
      exact Alike.error rfl
  | succ steps ih =>
    exact ⟨ih.conditional_succ, ih.chain_succ, ih.chainAfter_succ, ih.operand_succ,
      ih.signed_succ hlimit, ih.powered_succ, ih.primary_succ, ih.arguments_succ,
      ih.moreArguments_succ⟩

/-- The descents through a whole formula read the same tree, or they fail for the same cause. -/
theorem alike_whole (hlimit : d.limit = d'.limit) (h : SameLexemes ts us) :
    Alike SameCause Eq (d.whole ts) (d'.whole us) := by
  have hsteps : enoughSteps ts = enoughSteps us := by rw [enoughSteps, enoughSteps, h.length_eq]
  rw [whole, whole, hsteps, hlimit]
  refine ((corresponds hlimit _).conditional h).bind fun t ts us h => ?_
  obtain ⟨rfl, rfl⟩ | ⟨l, p, q, ts, us, rfl, rfl, -⟩ := h.cases
  · exact .ok rfl
  · exact .error rfl

end Descent

end Tariff.Formula
