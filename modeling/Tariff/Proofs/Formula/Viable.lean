import Tariff.Proofs.Formula.Descent.Soundness
import Tariff.Proofs.Formula.Spelling

/-!
# Fronts of formulas

Some lexemes are a front of a formula if more lexemes can be put after them so that the grammar
derives the whole. The number of arguments in a call does not matter here, but what is called has to
be a function.

## Main definitions

* `Tariff.Formula.Phrase.CallsNamed` — every call is of a function.
* `Tariff.Formula.IsFormed` — some lexemes form an instance of a symbol, with such calls.
* `Tariff.Formula.Extendable` — some lexemes can be continued.

## Main results

* `Tariff.Formula.IsFormed.choice` and the like — the rules of the grammar.
* `Tariff.Formula.Extendable.part` — a front of a part is a front of the whole.
-/

set_option autoImplicit false

namespace Tariff.Formula

open Tariff.Text

namespace Phrase

mutual

/-- Whether every call in a phrase is of a function, named in letters of any case. -/
def CallsNamed : Phrase → Prop
  | number _ | word _ => True
  | call name args => (Function.ofName? (lowerAscii name)).isSome = true ∧ AllCallsNamed args
  | group p | signed _ p => p.CallsNamed
  | power l r | binary _ l r => l.CallsNamed ∧ r.CallsNamed
  | choice c a b => c.CallsNamed ∧ a.CallsNamed ∧ b.CallsNamed

/-- Whether every call in several phrases is of a function. -/
def AllCallsNamed : List Phrase → Prop
  | [] => True
  | p :: ps => p.CallsNamed ∧ AllCallsNamed ps

end

/-- The calls in several phrases are of functions iff those in each of them are. -/
lemma allCallsNamed_iff {ps : List Phrase} : AllCallsNamed ps ↔ ∀ p ∈ ps, p.CallsNamed := by
  induction ps with
  | nil => simp [AllCallsNamed]
  | cons p ps ih => simp [AllCallsNamed, ih]

mutual

/-- Calls that are allowed are of functions. -/
theorem callsNamed_of_callsAllowed : ∀ p : Phrase, p.CallsAllowed → p.CallsNamed
  | number _, _ | word _, _ => trivial
  | group p, h | signed _ p, h => callsNamed_of_callsAllowed p h
  | power l r, h | binary _ l r, h =>
    ⟨callsNamed_of_callsAllowed l h.1, callsNamed_of_callsAllowed r h.2⟩
  | choice c a b, h =>
    ⟨callsNamed_of_callsAllowed c h.1, callsNamed_of_callsAllowed a h.2.1,
      callsNamed_of_callsAllowed b h.2.2⟩
  | call _ args, h => by
    obtain ⟨⟨f, hf, -⟩, hargs⟩ := h
    exact ⟨by rw [hf, Option.isSome_some], allCallsNamed_of_allCallsAllowed args hargs⟩

/-- Calls in several phrases that are allowed are of functions. -/
theorem allCallsNamed_of_allCallsAllowed : ∀ ps : List Phrase, AllCallsAllowed ps → AllCallsNamed ps
  | [], _ => trivial
  | p :: ps, h =>
    ⟨callsNamed_of_callsAllowed p h.1, allCallsNamed_of_allCallsAllowed ps h.2⟩

end

end Phrase

/-! ### Rules -/

/-- Some lexemes form an instance of a symbol, in which every call is of a function. -/
def IsFormed (sym : Symbol) (ls : List Lexeme) : Prop :=
  ∃ p : Phrase, Derives sym ls p ∧ p.CallsNamed

/-- Some lexemes form the arguments of a call, written as `text` puts them together. -/
def IsFormedAll (text : List (List Lexeme) → List Lexeme) (ls : List Lexeme) : Prop :=
  ∃ texts, ls = text texts ∧ ∀ arg ∈ texts, IsFormed .conditional arg

namespace IsFormed

variable {sym : Symbol} {level : Level} {op : Operator} {name : String}
  {ls rs as bs cs es : List Lexeme}

lemma plain (h : IsFormed (.chain .comparison) ls) : IsFormed .conditional ls := by
  obtain ⟨p, hp, hcalls⟩ := h
  exact ⟨p, .plain hp, hcalls⟩

lemma choice (hc : IsFormed (.chain .comparison) cs) (ha : IsFormed .conditional as)
    (hb : IsFormed .conditional bs) :
    IsFormed .conditional (cs ++ .question :: (as ++ .colon :: bs)) := by
  obtain ⟨pc, hpc, hcc⟩ := hc
  obtain ⟨pa, hpa, hca⟩ := ha
  obtain ⟨pb, hpb, hcb⟩ := hb
  exact ⟨.choice pc pa pb, .choice hpc hpa hpb, hcc, hca, hcb⟩

lemma single (h : IsFormed level.operand ls) : IsFormed (.chain level) ls := by
  obtain ⟨p, hp, hcalls⟩ := h
  exact ⟨p, .single hp, hcalls⟩

lemma binary (hl : IsFormed (.chain level) ls) (hop : op.level? = some level)
    (hr : IsFormed level.operand rs) : IsFormed (.chain level) (ls ++ .operator op :: rs) := by
  obtain ⟨pl, hpl, hcl⟩ := hl
  obtain ⟨pr, hpr, hcr⟩ := hr
  exact ⟨.binary op pl pr, .binary hpl hop hpr, hcl, hcr⟩

lemma unsigned (h : IsFormed .powered ls) : IsFormed .signed ls := by
  obtain ⟨p, hp, hcalls⟩ := h
  exact ⟨p, .unsigned hp, hcalls⟩

lemma signed {sign : Sign} (hop : op.sign? = some sign) (h : IsFormed .signed ls) :
    IsFormed .signed (.operator op :: ls) := by
  obtain ⟨p, hp, hcalls⟩ := h
  exact ⟨.signed sign p, .signed hop hp, hcalls⟩

lemma base (h : IsFormed .primary ls) : IsFormed .powered ls := by
  obtain ⟨p, hp, hcalls⟩ := h
  exact ⟨p, .base hp, hcalls⟩

lemma power (hb : IsFormed .primary bs) (he : IsFormed .signed es) :
    IsFormed .powered (bs ++ .operator .pow :: es) := by
  obtain ⟨pb, hpb, hcb⟩ := hb
  obtain ⟨pe, hpe, hce⟩ := he
  exact ⟨.power pb pe, .power hpb hpe, hcb, hce⟩

lemma number (digits : String) (sym : Symbol) : IsFormed sym [.number digits] :=
  ⟨.number digits, (Derives.number digits).of_primary sym, trivial⟩

lemma group (h : IsFormed .conditional ls) :
    IsFormed .primary (.openParen :: (ls ++ [.closeParen])) := by
  obtain ⟨p, hp, hcalls⟩ := h
  exact ⟨.group p, .group hp, hcalls⟩

lemma call (hname : (Function.ofName? (lowerAscii name)).isSome = true)
    (h : IsFormedAll separated ls) :
    IsFormed .primary (.name name :: .openParen :: (ls ++ [.closeParen])) := by
  obtain ⟨texts, rfl, htexts⟩ := h
  have hargs : ∃ args : List (List Lexeme × Phrase), args.map (·.1) = texts ∧
      ∀ a ∈ args, Derives .conditional a.1 a.2 ∧ a.2.CallsNamed := by
    clear hname
    induction texts with
    | nil => exact ⟨[], rfl, by simp⟩
    | cons text texts ih =>
      obtain ⟨⟨p, hp⟩, hmore⟩ := List.forall_mem_cons.1 htexts
      obtain ⟨args, rfl, hargs⟩ := ih hmore
      exact ⟨(text, p) :: args, rfl, List.forall_mem_cons.2 ⟨hp, hargs⟩⟩
  obtain ⟨args, rfl, hargs⟩ := hargs
  refine ⟨.call name (args.map (·.2)), .call name fun a ha => (hargs a ha).1, hname, ?_⟩
  rw [Phrase.allCallsNamed_iff]
  exact List.forall_mem_map.2 fun a ha => (hargs a ha).2

end IsFormed

namespace IsFormedAll

variable {as ls : List Lexeme}

/-- There may be no arguments. -/
lemma nil {text : List (List Lexeme) → List Lexeme} (htext : text [] = []) : IsFormedAll text [] :=
  ⟨[], htext.symm, by simp⟩

/-- The first argument of a call stands by itself, and the others follow it. -/
lemma first (ha : IsFormed .conditional as) (h : IsFormedAll (List.flatMap (.comma :: ·)) ls) :
    IsFormedAll separated (as ++ ls) := by
  obtain ⟨texts, rfl, htexts⟩ := h
  exact ⟨as :: texts, rfl, List.forall_mem_cons.2 ⟨ha, htexts⟩⟩

/-- Each further argument follows a comma. -/
lemma next (ha : IsFormed .conditional as) (h : IsFormedAll (List.flatMap (.comma :: ·)) ls) :
    IsFormedAll (List.flatMap (.comma :: ·)) (.comma :: (as ++ ls)) := by
  obtain ⟨texts, rfl, htexts⟩ := h
  exact ⟨as :: texts, rfl, List.forall_mem_cons.2 ⟨ha, htexts⟩⟩

end IsFormedAll

section

variable {sym : Symbol} {n : Nat} {t : Tree} {xs : List Tree} {ts rest : List Token}

/-- What is read as a symbol is formed. -/
lemma Reads.isFormed (h : Reads sym n ts t rest) :
    ∃ us, ts = us ++ rest ∧ IsFormed sym (us.map Token.lexeme) := by
  obtain ⟨us, p, rfl, hp, ht, -⟩ := h
  have hcalls : p.CallsAllowed := p.isSome_tree?_iff.1 (by simp [ht])
  exact ⟨us, rfl, p, hp, p.callsNamed_of_callsAllowed hcalls⟩

/-- What is read as arguments is formed of them. -/
lemma ReadsAll.isFormedAll {text : List (List Lexeme) → List Lexeme}
    (h : ReadsAll text n ts xs rest) :
    ∃ us, ts = us ++ rest ∧ IsFormedAll text (us.map Token.lexeme) := by
  obtain ⟨us, args, rfl, hus, hargs, hxs, -⟩ := h
  have hcalls : Phrase.AllCallsAllowed (args.map (·.2)) :=
    (Phrase.isSome_trees?_iff _).1 (by simp [hxs])
  rw [Phrase.allCallsAllowed_iff, List.forall_mem_map] at hcalls
  refine ⟨us, rfl, args.map (·.1), hus, List.forall_mem_map.2 fun a ha => ?_⟩
  exact ⟨a.2, hargs a ha, a.2.callsNamed_of_callsAllowed (hcalls a ha)⟩

end

/-! ### Fronts -/

/-- Some lexemes can be continued, with lexemes that have a text, to what satisfies `P`. -/
def Extendable (P : List Lexeme → Prop) (ls : List Lexeme) : Prop :=
  ∃ more : List Lexeme, (∀ l ∈ more, l.IsSpelled) ∧ P (ls ++ more)

/-- A number has a text. -/
lemma isSpelled_of_mem_one : ∀ l ∈ [Lexeme.number "1"], l.IsSpelled :=
  List.forall_mem_singleton.2 (.whole (by decide) (List.all_eq_true.1 (by decide)))

/-- A colon and a number have texts. -/
lemma isSpelled_of_mem_colon : ∀ l ∈ [Lexeme.colon, .number "1"], l.IsSpelled :=
  List.forall_mem_cons.2 ⟨trivial, isSpelled_of_mem_one⟩

/-- A closing parenthesis has a text. -/
lemma isSpelled_of_mem_closeParen : ∀ l ∈ [Lexeme.closeParen], l.IsSpelled :=
  List.forall_mem_singleton.2 trivial

namespace Extendable

variable {P Q : List Lexeme → Prop} {pre ls : List Lexeme}

/-- What continues some lexemes continues them after others. -/
lemma append (h : Extendable (fun ms => Q (pre ++ ms)) ls) : Extendable Q (pre ++ ls) := by
  obtain ⟨more, hmore, hQ⟩ := h
  exact ⟨more, hmore, by simpa using hQ⟩

/-- What continues a part continues the whole, up to where the part ends in it. -/
lemma part (post : List Lexeme) (hpost : ∀ l ∈ post, l.IsSpelled)
    (hPQ : ∀ ms, P ms → Q (ms ++ post)) (h : Extendable P ls) : Extendable Q ls := by
  obtain ⟨more, hmore, hP⟩ := h
  refine ⟨more ++ post, ?_, by simpa using hPQ _ hP⟩
  intro l hl
  exact (List.mem_append.1 hl).elim (hmore l) (hpost l)

end Extendable

end Tariff.Formula
