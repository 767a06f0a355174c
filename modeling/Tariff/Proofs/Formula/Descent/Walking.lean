import Tariff.Proofs.Formula.Cursor

/-!
# The descent with a cursor

A reader with a cursor does what the descent does: it comes to the same outcome, and where it comes
to a tree, the tokens from its cursor on are those that the descent leaves.

## Main definitions

* `Tariff.Formula.Follows` — a walk comes to what a function of the descent comes to.
* `Tariff.Formula.Method.read` — the function of the descent for a method.

## Main results

* `Tariff.Formula.Walk.follows_run` — every method follows the descent.
* `Tariff.Formula.Walk.start_whole` — a reader with a cursor reads what the descent reads.
* `Tariff.Formula.Walk.whole_ne_exhausted` — the descent has as many steps as it takes.
* `Tariff.Formula.Walk.run_progresses` — every method ends, within the list of tokens.
-/

set_option autoImplicit false

namespace Tariff.Formula

open Tariff.Text Walk

/-- A walk comes to what a function of the descent comes to: to the same tree, at the depth `i` and
with the cursor on the tokens that the function leaves, or to the same error. -/
inductive Follows {α : Type} (ts : List Token) (i : Int) :
    Except Halt α × Cursor → Except Error (Parsed α) → Prop where
  | ok {a : α} {c : Cursor} (h : c.index ≤ ts.length) (hdepth : c.depth = i) :
      Follows ts i (.ok a, c) (.ok (a, ts.drop c.index))
  | error {e : Error} {c : Cursor} : Follows ts i (.error (.failed e), c) (.error e)

/-- The function of the descent for a method. A call is read with its name. -/
def Method.read (d : Descent) (steps left : Nat) (ts : List Token) :
    (m : Method) → Except Error (Parsed m.Result)
  | .conditional => d.conditional steps left ts
  | .chain level => d.chain steps left level ts
  | .chainAfter level tree => d.chainAfter steps left level tree ts
  | .operand level => d.operand steps left level ts
  | .signed => d.signed steps left ts
  | .powered => d.powered steps left ts
  | .primary => d.primary steps left ts
  | .call name position => d.primary steps left (⟨.name name, position⟩ :: ts)
  | .arguments => d.arguments steps left ts
  | .moreArguments => d.moreArguments steps left ts

/-- A method is called where the descent would: a call is read at its opening parenthesis. -/
def Method.Opens (m : Method) (ts : List Token) : Prop :=
  ∀ name position, m = .call name position → ∃ p rest, ts = ⟨.openParen, p⟩ :: rest

section

variable {d : Descent} {ts : List Token} {steps : Nat} {calls : (m : Method) → Walk m.Result}
  {α β : Type} {w : Walk α} {c : Cursor} {i : Int}

/-! ### The next token -/

/-- The text of the next token. -/
lemma text?_head? (ts : List Token) : text? ts.head? = Descent.found ts := by
  cases ts <;> rfl

/-- The place of the next token. -/
lemma place_head? (ts : List Token) : place d ts.head? = d.position ts := by
  cases ts <;> rfl

/-- The next token is the first of those that are left. -/
lemma drop_eq_of_head? {t : Token} (h : (ts.drop c.index).head? = some t) :
    ts.drop c.index = t :: ts.drop (c.index + 1) := by
  have hdrop := List.drop_eq_getElem_cons (lt_length_of_head? h)
  rw [hdrop, List.head?_cons, Option.some.injEq] at h
  exact h ▸ hdrop

/-- A lexeme that is looked for is found. -/
lemma mark_eq_some_iff {l : Lexeme} {t : Token} {a : Unit} :
    mark l t = some a ↔ t.lexeme = l := by
  rw [mark]
  split <;> simp_all

namespace Follows

/-- A walk in two parts. -/
lemma bind {f : α → Walk β} {r : Except Error (Parsed α)}
    {g : Parsed α → Except Error (Parsed β)} (h : Follows ts i (start w c) r)
    (hf : ∀ a c', c'.index ≤ ts.length → c'.depth = i →
      Follows ts i (start (f a) c') (g (a, ts.drop c'.index))) :
    Follows ts i (start (w >>= f) c) (r >>= g) := by
  rw [start_bind]
  generalize start w c = outcome at h
  cases h with
  | error => exact .error
  | ok hc hdepth => exact hf _ _ hc hdepth

/-- A token is taken if it is one that is looked for. -/
lemma accept_bind {p : Token → Option α} {f : Option α → Walk β} {r : Except Error (Parsed β)}
    (h : c.index ≤ ts.length)
    (hsome : ∀ t a, ts.drop c.index = t :: ts.drop (c.index + 1) → p t = some a →
      c.index + 1 ≤ ts.length → Follows ts i (start (f (some a)) ⟨c.index + 1, c.depth⟩) r)
    (hnone : (∀ t rest, ts.drop c.index = t :: rest → p t = none) →
      Follows ts i (start (f none) c) r) :
    Follows ts i (start (accept ts p >>= f) c) r := by
  rw [start_bind, start_accept h]
  cases hnext : (ts.drop c.index).head?.bind p with
  | none =>
    refine hnone fun t rest hdrop => ?_
    rw [hdrop] at hnext
    exact hnext
  | some a =>
    obtain ⟨t, hhead, ha⟩ := Option.bind_eq_some_iff.1 hnext
    exact hsome t a (drop_eq_of_head? hhead) ha (lt_length_of_head? hhead)

/-- A lexeme is taken if it is there. -/
lemma mark_bind {l : Lexeme} {f : Option Unit → Walk β} {r : Except Error (Parsed β)}
    (h : c.index ≤ ts.length)
    (hsome : ∀ p, ts.drop c.index = ⟨l, p⟩ :: ts.drop (c.index + 1) → c.index + 1 ≤ ts.length →
      Follows ts i (start (f (some ())) ⟨c.index + 1, c.depth⟩) r)
    (hnone : (∀ p rest, ts.drop c.index ≠ ⟨l, p⟩ :: rest) → Follows ts i (start (f none) c) r) :
    Follows ts i (start (accept ts (mark l) >>= f) c) r := by
  refine accept_bind h (fun t _ hdrop ht hlt => ?_) fun hother => hnone fun p rest hdrop => ?_
  · obtain ⟨lexeme, p⟩ := t
    obtain rfl : lexeme = l := mark_eq_some_iff.1 ht
    exact hsome p hdrop hlt
  · exact absurd (hother _ _ hdrop) (by simp [mark])

/-- An operator or a sign is taken if the descent takes it from the tokens that are left. -/
lemma take_bind {p : Token → Option α} {q : List Token → Option (α × List Token)}
    {f : Option α → Walk β} {r : Except Error (Parsed β)} (hnil : q [] = none)
    (hcons : ∀ t rest, q (t :: rest) = (p t).map (·, rest)) (h : c.index ≤ ts.length)
    (hsome : ∀ a, q (ts.drop c.index) = some (a, ts.drop (c.index + 1)) →
      c.index + 1 ≤ ts.length → Follows ts i (start (f (some a)) ⟨c.index + 1, c.depth⟩) r)
    (hnone : q (ts.drop c.index) = none → Follows ts i (start (f none) c) r) :
    Follows ts i (start (accept ts p >>= f) c) r := by
  refine accept_bind h (fun t a hdrop ha hlt => hsome a ?_ hlt) fun hother => hnone ?_
  · rw [hdrop, hcons, ha, Option.map_some]
  · cases hdrop : ts.drop c.index with
    | nil => exact hnil
    | cons t rest => rw [hcons, hother t rest hdrop, Option.map_none]

/-- A token that must be there. -/
lemma expect_bind {f : Unit → Walk β} {g : List Token → Except Error (Parsed β)}
    (h : c.index ≤ ts.length) (hdepth : c.depth = i) (required : Required)
    (hf : ∀ c', c'.index ≤ ts.length → c'.depth = i →
      Follows ts i (start (f ()) c') (g (ts.drop c'.index))) :
    Follows ts i (start (expect d ts required >>= f) c)
      (d.require required (ts.drop c.index) >>= g) := by
  have htaken : Follows ts i (start (expect d ts required) c)
      ((d.require required (ts.drop c.index)).map ((), ·)) := by
    refine mark_bind h (fun p hdrop hlt => ?_) fun hother => ?_
    · have hrequire : d.require required (ts.drop c.index) = .ok (ts.drop (c.index + 1)) := by
        rw [hdrop]
        cases required <;> rfl
      rw [hrequire]
      exact .ok hlt hdepth
    · have hrequire : d.require required (ts.drop c.index) = .error
          (.expected required (Descent.found (ts.drop c.index))
            (d.position (ts.drop c.index))) := by
        unfold Descent.require
        split
        · next hdrop => exact absurd hdrop (hother _ _)
        · next hdrop => exact absurd hdrop (hother _ _)
        · rfl
      rw [hrequire, start_bind, start_current h, ← text?_head?, ← place_head?]
      exact .error
  have hcomposed := htaken.bind (g := fun parsed => g parsed.2)
    fun _ c' hc hdepth => hf c' hc hdepth
  cases hrequire : d.require required (ts.drop c.index) with
  | error e =>
    rw [hrequire] at hcomposed
    exact hcomposed
  | ok rest =>
    rw [hrequire] at hcomposed
    exact hcomposed

/-- The depth is counted around a walk, and none may be left. -/
lemma nested {r : Nat → Except Error (Parsed α)} (h : c.index ≤ ts.length) (hdepth : c.depth = i)
    (hnone : r 0 = .error (.tooDeep d.limit (d.position (ts.drop c.index))))
    (hw : ∀ left, (d.limit - (i + 1)).toNat = left →
      Follows ts (i + 1) (start w ⟨c.index, c.depth + 1⟩) (r (left + 1))) :
    Follows ts i (start (nested d ts w) c) (r (d.limit - i).toNat) := by
  rw [start_nested h]
  split
  · next hdeep =>
    have hzero : (d.limit - i).toNat = 0 := by omega
    rw [hzero, hnone, place_head?]
    exact .error
  · next hdeep =>
    obtain ⟨left, hleft⟩ : ∃ left, (d.limit - i).toNat = left + 1 :=
      ⟨(d.limit - (i + 1)).toNat, by omega⟩
    have hfollows := hw left (by omega)
    rw [hleft]
    generalize start w ⟨c.index, c.depth + 1⟩ = outcome, r (left + 1) = parsed at hfollows
    cases hfollows with
    | error => exact .error
    | @ok a c' hc hdepth' => exact .ok (c := ⟨c'.index, c'.depth - 1⟩) hc (by dsimp only; omega)

end Follows

/-! ### The methods -/

/-- What is called follows the descent with so many steps. -/
def Tracks (d : Descent) (ts : List Token) (steps : Nat) (calls : (m : Method) → Walk m.Result) :
    Prop :=
  ∀ (m : Method) {c : Cursor} {i : Int}, c.index ≤ ts.length → c.depth = i →
    m.Opens (ts.drop c.index) → Follows ts i (start (calls m) c)
      (m.read d steps (d.limit - i).toNat (ts.drop c.index))

namespace Tracks

variable {level : Level} {left : Tree}

lemma conditional (ih : Tracks d ts steps calls) (h : c.index ≤ ts.length) (hdepth : c.depth = i) :
    Follows ts i (start (body d ts calls .conditional) c)
      (d.conditional (steps + 1) (d.limit - i).toNat (ts.drop c.index)) := by
  rw [Descent.conditional]
  refine (ih (.chain .comparison) h hdepth nofun).bind fun condition c₁ hc hdepth => ?_
  dsimp only
  refine .mark_bind hc (fun p hdrop hlt => ?_) fun hother => ?_
  · rw [hdrop]
    refine (ih .conditional (c := ⟨_, _⟩) hlt hdepth nofun).bind fun whenTrue c₂ hc hdepth => ?_
    refine .expect_bind hc hdepth _ fun c₃ hc hdepth => ?_
    exact (ih .conditional hc hdepth nofun).bind fun whenFalse c₄ hc hdepth => .ok hc hdepth
  · dsimp only
    split
    · next hdrop => exact absurd hdrop (hother _ _)
    · exact .ok hc hdepth

lemma chain (ih : Tracks d ts steps calls) (h : c.index ≤ ts.length) (hdepth : c.depth = i) :
    Follows ts i (start (body d ts calls (.chain level)) c)
      (d.chain (steps + 1) (d.limit - i).toNat level (ts.drop c.index)) := by
  rw [Descent.chain]
  refine (ih (.operand level) h hdepth nofun).bind fun first c₁ hc hdepth => ?_
  exact ih (.chainAfter level first) hc hdepth nofun

lemma chainAfter (ih : Tracks d ts steps calls) (h : c.index ≤ ts.length) (hdepth : c.depth = i) :
    Follows ts i (start (body d ts calls (.chainAfter level left)) c)
      (d.chainAfter (steps + 1) (d.limit - i).toNat level left (ts.drop c.index)) := by
  have hoperator : ∀ t rest, Descent.operator? level (t :: rest) =
      (levelOperator? level t).map (·, rest) := by
    rintro ⟨lexeme, position⟩ rest
    cases lexeme <;> try rfl
    dsimp only [Descent.operator?, levelOperator?]
    split <;> rfl
  rw [Descent.chainAfter]
  refine .take_bind (q := Descent.operator? level) rfl hoperator h (fun op hsome hlt => ?_)
    fun hnone => ?_
  · rw [hsome]
    refine (ih (.operand level) (c := ⟨_, _⟩) hlt hdepth nofun).bind fun right c₁ hc hdepth => ?_
    exact ih (.chainAfter level _) hc hdepth nofun
  · rw [hnone]
    exact .ok h hdepth

lemma operand (ih : Tracks d ts steps calls) (h : c.index ≤ ts.length) (hdepth : c.depth = i) :
    Follows ts i (start (body d ts calls (.operand level)) c)
      (d.operand (steps + 1) (d.limit - i).toNat level (ts.drop c.index)) := by
  cases level with
  | comparison => exact ih (.chain .additive) h hdepth nofun
  | additive => exact ih (.chain .multiplicative) h hdepth nofun
  | multiplicative => exact ih .signed h hdepth nofun

lemma signed (ih : Tracks d ts steps calls) (h : c.index ≤ ts.length) (hdepth : c.depth = i) :
    Follows ts i (start (body d ts calls .signed) c)
      (d.signed (steps + 1) (d.limit - i).toNat (ts.drop c.index)) := by
  have hsign : ∀ t rest, Descent.sign? (t :: rest) = (signOf? t).map (·, rest) := by
    rintro ⟨lexeme, position⟩ rest
    cases lexeme <;> rfl
  refine .nested h hdepth (r := fun left => d.signed (steps + 1) left (ts.drop c.index)) rfl
    fun left hleft => ?_
  subst hleft
  rw [Descent.signed]
  refine .take_bind rfl hsign h (fun sign hsome hlt => ?_) fun hnone => ?_
  · rw [hsome]
    refine (ih .signed (c := ⟨_, _⟩) hlt (by dsimp only; omega) nofun).bind fun t c₁ hc hdepth => ?_
    exact .ok hc hdepth
  · rw [hnone]
    exact ih .powered h (by dsimp only; omega) nofun

lemma powered (ih : Tracks d ts steps calls) (h : c.index ≤ ts.length) (hdepth : c.depth = i) :
    Follows ts i (start (body d ts calls .powered) c)
      (d.powered (steps + 1) (d.limit - i).toNat (ts.drop c.index)) := by
  rw [Descent.powered]
  refine (ih .primary h hdepth nofun).bind fun base c₁ hc hdepth => ?_
  dsimp only
  refine .mark_bind hc (fun p hdrop hlt => ?_) fun hother => ?_
  · rw [hdrop]
    refine (ih .signed (c := ⟨_, _⟩) hlt hdepth nofun).bind fun exponent c₂ hc hdepth => ?_
    exact .ok hc hdepth
  · dsimp only
    split
    · next hdrop => exact absurd hdrop (hother _ _)
    · exact .ok hc hdepth

lemma arguments (ih : Tracks d ts steps calls) (h : c.index ≤ ts.length) (hdepth : c.depth = i) :
    Follows ts i (start (body d ts calls .arguments) c)
      (d.arguments (steps + 1) (d.limit - i).toNat (ts.drop c.index)) := by
  unfold Descent.arguments
  rw [body, start_bind, start_current h]
  dsimp only
  split
  · next hhead =>
    split
    · exact .ok h hdepth
    · next hother => exact absurd (drop_eq_of_head? hhead) (hother _ _)
  · next hother =>
    split
    · next hdrop => exact absurd (congrArg List.head? hdrop) (hother _)
    · refine (ih .conditional h hdepth nofun).bind fun first c₁ hc hdepth => ?_
      exact (ih .moreArguments hc hdepth nofun).bind fun others c₂ hc hdepth => .ok hc hdepth

lemma moreArguments (ih : Tracks d ts steps calls) (h : c.index ≤ ts.length)
    (hdepth : c.depth = i) : Follows ts i (start (body d ts calls .moreArguments) c)
      (d.moreArguments (steps + 1) (d.limit - i).toNat (ts.drop c.index)) := by
  unfold Descent.moreArguments
  refine .mark_bind h (fun p hdrop hlt => ?_) fun hother => ?_
  · rw [hdrop]
    refine (ih .conditional (c := ⟨_, _⟩) hlt hdepth nofun).bind fun next c₁ hc hdepth => ?_
    exact (ih .moreArguments hc hdepth nofun).bind fun others c₂ hc hdepth => .ok hc hdepth
  · dsimp only
    split
    · next hdrop => exact absurd hdrop (hother _ _)
    · exact .ok h hdepth

/-- A call is read from its opening parenthesis on. -/
lemma callWith {name : String} {position p : Nat} {rest : List Token}
    (ih : Tracks d ts steps calls) (h : c.index ≤ ts.length) (hdepth : c.depth = i)
    (hopens : ts.drop c.index = ⟨.openParen, p⟩ :: rest) :
    Follows ts i (start (callWith d ts (calls .arguments) name position) c)
      (d.primary (steps + 1) (d.limit - i).toNat (⟨.name name, position⟩ :: ts.drop c.index)) := by
  rw [hopens, Descent.primary]
  unfold Walk.callWith
  cases Function.ofName? (lowerAscii name) with
  | none => exact .error
  | some f =>
    dsimp only
    refine .mark_bind h (fun p hdrop hlt => ?_) fun hother => ?_
    · obtain ⟨-, rfl⟩ := List.cons.inj (hopens.symm.trans hdrop)
      refine (ih .arguments (c := ⟨_, _⟩) hlt hdepth nofun).bind fun args c₁ hc hdepth => ?_
      refine .expect_bind hc hdepth _ fun c₂ hc hdepth => ?_
      cases Descent.call f position args with
      | error e => exact .error
      | ok t => exact .ok hc hdepth
    · exact absurd hopens (hother _ _)

lemma primary (ih : Tracks d ts steps calls) (h : c.index ≤ ts.length) (hdepth : c.depth = i) :
    Follows ts i (start (body d ts calls .primary) c)
      (d.primary (steps + 1) (d.limit - i).toNat (ts.drop c.index)) := by
  rw [body, start_bind, start_current h]
  dsimp only
  split
  · next digits position hhead =>
    have hlt := lt_length_of_head? hhead
    rw [drop_eq_of_head? hhead, start_bind, start_advance h]
    exact .ok (c := ⟨_, _⟩) hlt hdepth
  · next name position hhead =>
    have hlt := lt_length_of_head? hhead
    rw [drop_eq_of_head? hhead, start_bind, start_advance h]
    dsimp only
    rw [start_bind, start_current (c := ⟨_, _⟩) hlt]
    dsimp only
    split
    · next p hopen => exact ih.callWith (c := ⟨_, _⟩) hlt hdepth (drop_eq_of_head? hopen)
    · next hother =>
      have hword : d.primary (steps + 1) (d.limit - i).toNat
          (⟨.name name, position⟩ :: ts.drop (c.index + 1)) =
            .ok (Descent.meaning name, ts.drop (c.index + 1)) := by
        cases hdrop : ts.drop (c.index + 1) with
        | nil => rfl
        | cons t rest =>
          obtain ⟨lexeme, p⟩ := t
          cases lexeme with
          | openParen => exact absurd (congrArg List.head? hdrop) (hother p)
          | _ => rfl
      rw [hword]
      exact .ok (c := ⟨_, _⟩) hlt hdepth
  · next position hhead =>
    have hlt := lt_length_of_head? hhead
    rw [drop_eq_of_head? hhead, start_bind, start_advance h, Descent.primary]
    refine (ih .conditional (c := ⟨_, _⟩) hlt hdepth nofun).bind fun t c₁ hc hdepth => ?_
    exact .expect_bind hc hdepth _ fun c₂ hc hdepth => .ok hc hdepth
  · next hnumber hname hopen =>
    have hreject : d.primary (steps + 1) (d.limit - i).toNat (ts.drop c.index) = .error
        (.unexpectedToken (Descent.found (ts.drop c.index)) (d.position (ts.drop c.index))) := by
      unfold Descent.primary
      split
      · next hdrop => exact absurd (congrArg List.head? hdrop) (hnumber _ _)
      · next hdrop => exact absurd (congrArg List.head? hdrop) (hname _ _)
      · next hdrop => exact absurd (congrArg List.head? hdrop) (hname _ _)
      · next hdrop => exact absurd (congrArg List.head? hdrop) (hopen _)
      · rfl
    rw [hreject, text?_head?, place_head?]
    exact .error

end Tracks

/-- **Every method follows the descent.** -/
theorem Walk.follows_run (steps : Nat) : Tracks d ts steps (run d ts steps) := by
  induction steps with
  | zero =>
    intro m c i h hdepth hopens
    cases m <;> exact .error
  | succ steps ih =>
    intro m c i h hdepth hopens
    cases m with
    | conditional => exact ih.conditional h hdepth
    | chain level => exact ih.chain h hdepth
    | chainAfter level left => exact ih.chainAfter h hdepth
    | operand level => exact ih.operand h hdepth
    | signed => exact ih.signed h hdepth
    | powered => exact ih.powered h hdepth
    | primary => exact ih.primary h hdepth
    | call name position =>
      obtain ⟨p, rest, hdrop⟩ := hopens name position rfl
      exact ih.callWith h hdepth hdrop
    | arguments => exact ih.arguments h hdepth
    | moreArguments => exact ih.moreArguments h hdepth

/-! ### Whole formulas -/

namespace Walk

/-- Reads all of some tokens. -/
def whole (d : Descent) (ts : List Token) : Walk Tree := do
  let t ← run d ts (Descent.enoughSteps ts) .conditional
  match ← current ts with
  | none => pure t
  | next => throw (.failed (.unexpectedToken (text? next) (place d next)))

/-- From the start a conditional follows the descent through all tokens. -/
lemma follows_start (d : Descent) (ts : List Token) :
    Follows ts 0 (start (run d ts (Descent.enoughSteps ts) .conditional) ⟨0, 0⟩)
      (d.conditional (Descent.enoughSteps ts) d.limit.toNat ts) := by
  have hfollows := follows_run (Descent.enoughSteps ts) .conditional (d := d) (c := ⟨0, 0⟩)
    (Nat.zero_le ts.length) rfl nofun
  rwa [Int.sub_zero] at hfollows

/-- **A reader with a cursor reads what the descent reads.** -/
theorem start_whole (d : Descent) (ts : List Token) :
    (start (whole d ts) ⟨0, 0⟩).1 = (d.whole ts).mapError .failed := by
  have hfollows := follows_start d ts
  rw [whole, start_bind, Descent.whole]
  generalize start (run d ts (Descent.enoughSteps ts) .conditional) ⟨0, 0⟩ = outcome,
    d.conditional (Descent.enoughSteps ts) d.limit.toNat ts = parsed at hfollows
  cases hfollows with
  | error => rfl
  | @ok t c hc hdepth =>
    change (start (current ts >>= _) c).1 = _
    rw [start_bind, start_current hc]
    cases ts.drop c.index with
    | nil => rfl
    | cons t rest => rfl

/-- **The descent has as many steps as it takes** to go through all tokens. -/
theorem whole_ne_exhausted (d : Descent) (ts : List Token) : d.whole ts ≠ .error .exhausted := by
  have hneed : Method.conditional.need ts ⟨0, 0⟩ ≤ Descent.enoughSteps ts := by
    simp only [Method.need, Method.rank, Descent.enoughSteps]
    omega
  have hends := (completes_run (d := d) (Nat.zero_le ts.length) hneed).2
  have hfollows := follows_start d ts
  generalize start (run d ts (Descent.enoughSteps ts) .conditional) ⟨0, 0⟩ = outcome
    at hends hfollows
  rw [Descent.whole]
  generalize d.conditional (Descent.enoughSteps ts) d.limit.toNat ts = parsed at hfollows
  cases hfollows with
  | @ok t c hc hdepth =>
    intro h
    simp only [bind, Except.bind] at h
    split at h <;> cases h
  | error =>
    rintro ⟨⟩
    exact hends rfl

/-- **Every method makes progress and stays within the list.** From a cursor that is not beyond the
mark at the end, whatever the depth and its limit are:

* it ends, and any number of steps from those that it needs on comes to the same;
* it does not look up anything beyond the list, and does not take the mark, as an index that never
  goes back is not beyond it after that;
* if it comes to a result, the depth is as it was, and all but the parts that may find nothing to
  read have taken a token;
* what it comes to is what the function of the descent comes to on the tokens from the cursor on. -/
theorem run_progresses (d : Descent) (ts : List Token) (m : Method) (c : Cursor)
    (h : c.index ≤ ts.length) : ∃ r : Except Halt m.Result × Cursor,
      (∀ steps, m.need ts c ≤ steps → start (run d ts steps m) c = r) ∧
      (r.1 ≠ .error .outside ∧ r.1 ≠ .error (.failed .exhausted)) ∧
      (c.index ≤ r.2.index ∧ r.2.index ≤ ts.length) ∧
      (∀ a, r.1 = .ok a → r.2.depth = c.depth ∧ (m.takes = true → c.index < r.2.index)) ∧
      (m.Opens (ts.drop c.index) → ∀ steps, m.need ts c ≤ steps →
        Follows ts c.depth r (m.read d steps (d.limit - c.depth).toNat (ts.drop c.index))) := by
  have hmoves := moves_run (d := d) (m.need ts c) m c h
  have hsame : ∀ steps, m.need ts c ≤ steps →
      start (run d ts steps m) c = start (run d ts (m.need ts c) m) c := by
    intro steps hsteps
    induction steps, hsteps using Nat.le_induction with
    | base => rfl
    | succ steps hsteps ih => exact (completes_run h hsteps).1.trans ih
  refine ⟨start (run d ts (m.need ts c) m) c, hsame, ⟨hmoves.inside, (completes_run h le_rfl).2⟩,
    ⟨hmoves.le, hmoves.le_length⟩, hmoves.returns, fun hopens steps hsteps => ?_⟩
  rw [← hsame steps hsteps]
  exact follows_run steps m h rfl hopens

/-- A formula that ends where an operand should be. -/
theorem run_progresses_unfinished :
    (⟨0, 0⟩ : Cursor).index ≤ [(⟨.number "1", 0⟩ : Token), ⟨.operator .add, 2⟩].length ∧
    ∃ r : Except Halt Tree × Cursor,
      (∀ steps, 34 ≤ steps → start (run ⟨64, 3⟩ [⟨.number "1", 0⟩, ⟨.operator .add, 2⟩] steps
        .conditional) ⟨0, 0⟩ = r) ∧
      r.1 ≠ .error .outside ∧ r.2.index ≤ 2 ∧ ∀ a, r.1 = .ok a → r.2.depth = 0 := by
  have h : (⟨0, 0⟩ : Cursor).index ≤ [(⟨.number "1", 0⟩ : Token), ⟨.operator .add, 2⟩].length := by
    decide
  obtain ⟨r, hsteps, ⟨hinside, -⟩, ⟨-, hle⟩, hreturns, -⟩ := run_progresses ⟨64, 3⟩
    [⟨.number "1", 0⟩, ⟨.operator .add, 2⟩] .conditional ⟨0, 0⟩ h
  exact ⟨h, r, hsteps, hinside, hle, fun a ha => (hreturns a ha).1⟩

end Walk

end

end Tariff.Formula
