import Mathlib.Tactic.Lemma
import Tariff.Formula.Parser

/-!
# The grammar of formulas

What a sequence of lexemes says is laid down here by rules, without reference to how it is read.
From the loosest to the tightest the symbols are

* the conditional: a comparison, or `comparison ? conditional : conditional`,
* the chains of the three levels, each a chain of the next tighter one with operators between the
  operands, grouped to the left,
* the operand with signs in front of it,
* the power, whose exponent is again an operand with signs,
* the primary: a number, a name, a call or a conditional in parentheses.

A derivation ends in a *phrase*, which keeps the parentheses and the names of the called functions
as they are written. Whether the calls are possible, how deep the phrase nests and which tree it
stands for are questions about the phrase.

## Main definitions

* `Tariff.Formula.Phrase` — a formula as it is written.
* `Tariff.Formula.Phrase.depth` — how deep the operands of a phrase are nested.
* `Tariff.Formula.Phrase.CallsAllowed` — every call is of a function with as many arguments as it
  takes.
* `Tariff.Formula.Phrase.tree?` — the tree that a phrase stands for.
* `Tariff.Formula.Derives` — the grammar: a symbol, the lexemes and the phrase they form.

## Main results

* `Tariff.Formula.Phrase.isSome_tree?_iff` — a phrase has a tree iff its calls are allowed.
* `Tariff.Formula.Phrase.one_le_depth` — the outermost operand is nested one deep.
* `Tariff.Formula.Derives.exists_cons` — which lexemes a derived sequence can start with.
-/

set_option autoImplicit false

namespace Tariff.Formula

open Tariff.Text

/-! ### Phrases -/

/-- A formula as it is written. -/
inductive Phrase where
  /-- a number in its digits -/
  | number (digits : String)
  /-- a name that is not called -/
  | word (name : String)
  /-- a call of a name -/
  | call (name : String) (arguments : List Phrase)
  /-- a phrase in parentheses -/
  | group (inner : Phrase)
  /-- a base and its exponent -/
  | power (base exponent : Phrase)
  /-- an operand with a sign -/
  | signed (sign : Sign) (operand : Phrase)
  /-- two operands with an operator between them -/
  | binary (op : Operator) (left right : Phrase)
  /-- one of two phrases, chosen by a condition -/
  | choice (condition whenTrue whenFalse : Phrase)

namespace Phrase

mutual

/-- How deep the operands of a phrase are nested. The outermost operand counts one, and each
parenthesis, call argument, exponent and sign adds one for what it holds. -/
def depth : Phrase → Nat
  | number _ | word _ => 1
  | call _ args => 1 + depthOfAll args
  | group p => 1 + p.depth
  | power b e => max b.depth (1 + e.depth)
  | signed _ p => 1 + p.depth
  | binary _ l r => max l.depth r.depth
  | choice c a b => max c.depth (max a.depth b.depth)

/-- How deep the operands of several phrases are nested. -/
def depthOfAll : List Phrase → Nat
  | [] => 0
  | p :: ps => max p.depth (depthOfAll ps)

end

mutual

/-- Whether every call in a phrase is of a function, named in letters of any case, and has as many
arguments as the function takes. -/
def CallsAllowed : Phrase → Prop
  | number _ | word _ => True
  | call name args =>
    (∃ f, Function.ofName? (lowerAscii name) = some f ∧ f.admits args.length = true) ∧
      AllCallsAllowed args
  | group p | signed _ p => p.CallsAllowed
  | power l r | binary _ l r => l.CallsAllowed ∧ r.CallsAllowed
  | choice c a b => c.CallsAllowed ∧ a.CallsAllowed ∧ b.CallsAllowed

/-- Whether every call in several phrases is allowed. -/
def AllCallsAllowed : List Phrase → Prop
  | [] => True
  | p :: ps => p.CallsAllowed ∧ AllCallsAllowed ps

end

/-- The calls in several phrases are allowed iff those in each of them are. -/
lemma allCallsAllowed_iff {ps : List Phrase} : AllCallsAllowed ps ↔ ∀ p ∈ ps, p.CallsAllowed := by
  induction ps with
  | nil => simp [AllCallsAllowed]
  | cons p ps ih => simp [AllCallsAllowed, ih]

mutual

/-- The tree that a phrase stands for, unless one of its calls is not allowed. -/
def tree? : Phrase → Option Tree
  | number digits => some (Descent.numberTree digits)
  | word name => some (Descent.meaning name)
  | call name args => do
    let f ← Function.ofName? (lowerAscii name)
    let ts ← trees? args
    f.call? ts
  | group p => p.tree?
  | power b e => do
    let x ← b.tree?
    let y ← e.tree?
    some (.binary .pow x y)
  | signed sign p => p.tree?.map (.signed sign)
  | binary op l r => do
    let x ← l.tree?
    let y ← r.tree?
    some (.binary op x y)
  | choice c a b => do
    let x ← c.tree?
    let y ← a.tree?
    let z ← b.tree?
    some (.choice x y z)

/-- The trees that several phrases stand for. -/
def trees? : List Phrase → Option (List Tree)
  | [] => some []
  | p :: ps => do
    let t ← p.tree?
    let ts ← trees? ps
    some (t :: ts)

end

/-- As many trees come out as phrases went in. -/
lemma length_of_trees? {ps : List Phrase} {ts : List Tree} (h : trees? ps = some ts) :
    ts.length = ps.length := by
  induction ps generalizing ts with
  | nil =>
    simp only [trees?, Option.some.injEq] at h
    simp [← h]
  | cons p ps ih =>
    simp only [trees?, Option.bind_eq_bind, Option.bind_eq_some_iff, Option.some.injEq] at h
    obtain ⟨t, -, us, hus, rfl⟩ := h
    simp [ih hus]

mutual

/-- A phrase has a tree iff its calls are allowed. -/
theorem isSome_tree?_iff : ∀ p : Phrase, p.tree?.isSome ↔ p.CallsAllowed
  | number _ | word _ => by simp [tree?, CallsAllowed]
  | group p => by simpa [tree?, CallsAllowed] using isSome_tree?_iff p
  | signed _ p => by simpa [tree?, CallsAllowed] using isSome_tree?_iff p
  | power l r | binary _ l r => by
    simp only [tree?, CallsAllowed, ← isSome_tree?_iff l, ← isSome_tree?_iff r]
    cases l.tree? <;> cases r.tree? <;> simp
  | choice c a b => by
    simp only [tree?, CallsAllowed, ← isSome_tree?_iff c, ← isSome_tree?_iff a,
      ← isSome_tree?_iff b]
    cases c.tree? <;> cases a.tree? <;> cases b.tree? <;> simp
  | call name args => by
    have hargs := isSome_trees?_iff args
    simp only [tree?, CallsAllowed, Option.isSome_iff_exists, Option.bind_eq_bind,
      Option.bind_eq_some_iff]
    constructor
    · rintro ⟨t, f, hf, ts, hts, ht⟩
      refine ⟨⟨f, hf, ?_⟩, hargs.1 (by simp [hts])⟩
      rw [← length_of_trees? hts, ← Function.isSome_call?, ht, Option.isSome_some]
    · rintro ⟨⟨f, hf, hn⟩, hall⟩
      obtain ⟨ts, hts⟩ := Option.isSome_iff_exists.1 (hargs.2 hall)
      rw [← length_of_trees? hts, ← Function.isSome_call?, Option.isSome_iff_exists] at hn
      obtain ⟨t, ht⟩ := hn
      exact ⟨t, f, hf, ts, hts, ht⟩

/-- Several phrases have trees iff their calls are allowed. -/
theorem isSome_trees?_iff : ∀ ps : List Phrase, (trees? ps).isSome ↔ AllCallsAllowed ps
  | [] => by simp [trees?, AllCallsAllowed]
  | p :: ps => by
    simp only [trees?, AllCallsAllowed, ← isSome_tree?_iff p, ← isSome_trees?_iff ps]
    cases p.tree? <;> cases trees? ps <;> simp

end

/-- The outermost operand is nested one deep. -/
lemma one_le_depth : ∀ p : Phrase, 1 ≤ p.depth
  | number _ | word _ => by simp [depth]
  | call _ _ | group _ | signed _ _ => by simp only [depth]; omega
  | power p _ | binary _ p _ | choice p _ _ => by
    have := one_le_depth p
    simp only [depth]
    omega

end Phrase

/-! ### Derivations -/

/-- The symbols of the grammar. -/
inductive Symbol where
  /-- a comparison, or a choice between two conditionals -/
  | conditional
  /-- operands with operators of one level between them -/
  | chain (level : Level)
  /-- an operand with any number of signs -/
  | signed
  /-- a primary with an optional exponent -/
  | powered
  /-- a number, a name, a call or a conditional in parentheses -/
  | primary

/-- What stands between the operators of a level. -/
def Level.operand : Level → Symbol
  | .comparison => .chain .additive
  | .additive => .chain .multiplicative
  | .multiplicative => .signed

/-- The lexemes of the arguments of a call, with commas between them. -/
def separated : List (List Lexeme) → List Lexeme
  | [] => []
  | ls :: rest => ls ++ rest.flatMap (.comma :: ·)

/-- What holds of some sequences, and of two of them with a comma between them, holds of all of them
with commas between them. -/
lemma separated_induction {P : List Lexeme → Prop} {texts : List (List Lexeme)} (hnil : P [])
    (hcomma : ∀ as bs, P as → P bs → P (as ++ .comma :: bs)) (h : ∀ ls ∈ texts, P ls) :
    P (separated texts) := by
  have hmore : ∀ (others : List (List Lexeme)) (ls : List Lexeme), P ls →
      (∀ o ∈ others, P o) → P (ls ++ others.flatMap (.comma :: ·)) := by
    intro others
    induction others with
    | nil =>
      intro ls hls _
      simpa using hls
    | cons o others ih =>
      intro ls hls hothers
      rw [List.flatMap_cons, List.cons_append]
      have ho : P o := hothers o List.mem_cons_self
      exact hcomma ls _ hls (ih o ho fun o' ho' => hothers o' (List.mem_cons_of_mem _ ho'))
  cases texts with
  | nil => exact hnil
  | cons ls others =>
    exact hmore others ls (h ls List.mem_cons_self) fun o ho => h o (List.mem_cons_of_mem _ ho)

/-- The grammar: which lexemes form which phrase as an instance of a symbol. -/
inductive Derives : Symbol → List Lexeme → Phrase → Prop where
  /-- a comparison is a conditional -/
  | plain {ls : List Lexeme} {p : Phrase} :
      Derives (.chain .comparison) ls p → Derives .conditional ls p
  /-- `c ? a : b` is a conditional -/
  | choice {cs as bs : List Lexeme} {c a b : Phrase} :
      Derives (.chain .comparison) cs c → Derives .conditional as a → Derives .conditional bs b →
      Derives .conditional (cs ++ .question :: (as ++ .colon :: bs)) (.choice c a b)
  /-- an operand is a chain -/
  | single {level : Level} {ls : List Lexeme} {p : Phrase} :
      Derives level.operand ls p → Derives (.chain level) ls p
  /-- a chain grows by an operator of its level and an operand -/
  | binary {level : Level} {ls rs : List Lexeme} {op : Operator} {l r : Phrase} :
      Derives (.chain level) ls l → op.level? = some level → Derives level.operand rs r →
      Derives (.chain level) (ls ++ .operator op :: rs) (.binary op l r)
  /-- an operand may have no sign -/
  | unsigned {ls : List Lexeme} {p : Phrase} : Derives .powered ls p → Derives .signed ls p
  /-- a sign may stand in front of an operand -/
  | signed {op : Operator} {sign : Sign} {ls : List Lexeme} {p : Phrase} :
      op.sign? = some sign → Derives .signed ls p →
      Derives .signed (.operator op :: ls) (.signed sign p)
  /-- a primary may have no exponent -/
  | base {ls : List Lexeme} {p : Phrase} : Derives .primary ls p → Derives .powered ls p
  /-- the exponent is an operand with any number of signs -/
  | power {bs es : List Lexeme} {b e : Phrase} :
      Derives .primary bs b → Derives .signed es e →
      Derives .powered (bs ++ .operator .pow :: es) (.power b e)
  | number (digits : String) : Derives .primary [.number digits] (.number digits)
  | word (name : String) : Derives .primary [.name name] (.word name)
  /-- a conditional in parentheses -/
  | group {ls : List Lexeme} {p : Phrase} :
      Derives .conditional ls p → Derives .primary (.openParen :: (ls ++ [.closeParen])) (.group p)
  /-- a call with conditionals as arguments -/
  | call (name : String) {args : List (List Lexeme × Phrase)} :
      (∀ a ∈ args, Derives .conditional a.1 a.2) →
      Derives .primary (.name name :: .openParen :: (separated (args.map (·.1)) ++ [.closeParen]))
        (.call name (args.map (·.2)))

/-- Whether a lexeme can be the first one of an instance of a symbol. -/
def Symbol.startsWith : Symbol → Lexeme → Bool
  | _, .number _ | _, .name _ | _, .openParen => true
  | .powered, .operator _ | .primary, .operator _ => false
  | _, .operator op => op.sign?.isSome
  | _, _ => false

namespace Derives

variable {sym : Symbol} {ls : List Lexeme} {p : Phrase}

/-- A derived sequence has a first lexeme, and its symbol can start with it. -/
lemma exists_cons (h : Derives sym ls p) : ∃ l rest, ls = l :: rest ∧ sym.startsWith l = true := by
  induction h with
  | plain _ ih | unsigned _ ih | base _ ih =>
    obtain ⟨l, rest, rfl, hl⟩ := ih
    refine ⟨l, rest, rfl, ?_⟩
    cases l <;> simp_all [Symbol.startsWith]
  | @single level _ _ _ ih =>
    obtain ⟨l, rest, rfl, hl⟩ := ih
    refine ⟨l, rest, rfl, ?_⟩
    cases level <;> cases l <;> simp_all [Symbol.startsWith, Level.operand]
  | choice _ _ _ ih _ _ | binary _ _ _ ih _ | power _ _ ih _ =>
    obtain ⟨l, rest, rfl, hl⟩ := ih
    refine ⟨l, _, List.cons_append, ?_⟩
    cases l <;> simp_all [Symbol.startsWith]
  | signed hop => exact ⟨_, _, rfl, by simp [Symbol.startsWith, hop]⟩
  | number | word | group | call => exact ⟨_, _, rfl, rfl⟩

/-- Every symbol derives what the tightest one does. -/
lemma of_primary (h : Derives .primary ls p) (sym : Symbol) : Derives sym ls p := by
  have hsigned : Derives .signed ls p := .unsigned (.base h)
  have hmultiplicative : Derives (.chain .multiplicative) ls p := .single hsigned
  have hadditive : Derives (.chain .additive) ls p := .single hmultiplicative
  have hcomparison : Derives (.chain .comparison) ls p := .single hadditive
  cases sym with
  | conditional => exact .plain hcomparison
  | chain level => cases level <;> assumption
  | signed => exact hsigned
  | powered => exact .base h
  | primary => exact h

/-- No symbol derives the empty sequence. -/
lemma ne_nil (h : Derives sym ls p) : ls ≠ [] := by
  obtain ⟨l, rest, rfl, -⟩ := h.exists_cons
  simp

/-- No symbol derives what starts with a closing parenthesis. -/
lemma head?_ne_closeParen (h : Derives sym ls p) : ls.head? ≠ some .closeParen := by
  obtain ⟨l, rest, rfl, hl⟩ := h.exists_cons
  rintro ⟨⟩
  cases sym <;> simp [Symbol.startsWith] at hl

end Derives

end Tariff.Formula
