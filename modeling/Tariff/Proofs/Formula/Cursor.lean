import Mathlib.Data.Nat.Basic
import Mathlib.Order.Basic
import Mathlib.Tactic.Lemma
import Tariff.Formula.Parser

/-!
# Reading with a cursor

The descent hands on the tokens that are left and the depth that is left. Here it is written down
with what a reader keeps instead: an index into the list of all tokens, which ends with a mark, and
a counter of the depth. Such a reader can go wrong in ways that the descent cannot: it can look up a
token beyond the list, take the mark at its end, forget to count back, or call itself without end.
It does none of that.

## Main definitions

* `Tariff.Formula.Cursor` — the index and the depth of a reader.
* `Tariff.Formula.Walk` — what moves a cursor, and may halt.
* `Tariff.Formula.Method`, `Tariff.Formula.Walk.run` — what a reader can be asked to read.
* `Tariff.Formula.Moves` — where a cursor is after a walk.
* `Tariff.Formula.Completes` — a walk ends, and more steps make no difference.

## Main results

* `Tariff.Formula.Walk.moves_run` — every method keeps to the list and to the depth.
* `Tariff.Formula.Walk.completes_run` — every method ends.
-/

set_option autoImplicit false

namespace Tariff.Formula

open Tariff.Text

/-! ### Walks -/

/-- Where a reader stands. -/
structure Cursor where
  /-- the index of the next token -/
  index : Nat
  /-- how deep the formula is nested here -/
  depth : Int

/-- Why a reader halts. -/
inductive Halt where
  /-- a token is looked up beyond the list -/
  | outside
  /-- a function is called without its parenthesis -/
  | unopened (found : Option String) (position : Nat)
  /-- the formula is rejected -/
  | failed (e : Error)

/-- What moves a cursor, and may halt. The cursor stays where it is then. -/
abbrev Walk (α : Type) : Type :=
  ExceptT Halt (StateM Cursor) α

namespace Walk

/-- What comes of a walk from some place, and where the cursor is after it. -/
def start {α : Type} (w : Walk α) (c : Cursor) : Except Halt α × Cursor :=
  StateT.run (ExceptT.run w) c

/-- The text of a token, and nothing for the mark at the end. -/
def text? (t : Option Token) : Option String :=
  t.map fun t => t.lexeme.text

/-- The place of a token, and that where the formula ends for the mark. -/
def place (d : Descent) : Option Token → Nat
  | some t => t.position
  | none => d.stop

variable (d : Descent) (ts : List Token)

/-- The next token, or the mark at the end of the list. -/
def current : Walk (Option Token) := do
  let c ← get
  match (ts.map some ++ [none])[c.index]? with
  | some t => pure t
  | none => throw .outside

/-- Takes the next token, or the mark at the end of the list. -/
def advance : Walk Unit := do
  let _ ← current ts
  modify fun c => { c with index := c.index + 1 }

/-- Takes the next token if it is one that is looked for. -/
def accept {β : Type} (p : Token → Option β) : Walk (Option β) := do
  match (← current ts).bind p with
  | some b => do
    advance ts
    pure (some b)
  | none => pure none

/-- Looks for a lexeme. -/
def mark (l : Lexeme) (t : Token) : Option Unit :=
  if t.lexeme = l then some () else none

/-- Looks for an operator of a level. -/
def levelOperator? (level : Level) (t : Token) : Option Operator :=
  match t.lexeme with
  | .operator op => if op.level? = some level then some op else none
  | _ => none

/-- Looks for a sign. -/
def signOf? (t : Token) : Option Sign :=
  match t.lexeme with
  | .operator op => op.sign?
  | _ => none

/-- The lexeme of a token that is required. -/
def lexemeOf : Required → Lexeme
  | .closeParen => .closeParen
  | .colon => .colon

/-- Takes a token that must be there. -/
def expect (required : Required) : Walk Unit := do
  match ← accept ts (mark (lexemeOf required)) with
  | some () => pure ()
  | none =>
    let t ← current ts
    throw (.failed (.expected required (text? t) (place d t)))

/-- Counts the depth while something is read, and counts back however that ends. -/
def nested {α : Type} (w : Walk α) : Walk α := do
  modify fun c => { c with depth := c.depth + 1 }
  let c ← get
  if d.limit < c.depth then
    let t ← current ts
    throw (.failed (.tooDeep d.limit (place d t)))
  else ExceptT.mk do
    let outcome ← w.run
    modify fun c => { c with depth := c.depth - 1 }
    pure outcome

end Walk

/-! ### Methods -/

/-- What a reader can be asked to read. -/
inductive Method where
  | conditional
  | chain (level : Level)
  /-- what follows an operand in a chain -/
  | chainAfter (level : Level) (left : Tree)
  | operand (level : Level)
  | signed
  | powered
  | primary
  /-- the call of a name that has been read, from its opening parenthesis on -/
  | call (name : String) (position : Nat)
  | arguments
  /-- what follows an argument -/
  | moreArguments

/-- What a method gives back. -/
@[reducible] def Method.Result : Method → Type
  | .arguments | .moreArguments => List Tree
  | _ => Tree

/-- Whether a method takes a token in any case. The others may find nothing to read. -/
def Method.takes : Method → Bool
  | .chainAfter .. | .arguments | .moreArguments => false
  | _ => true

namespace Walk

variable (d : Descent) (ts : List Token)

/-- Reads a call from its opening parenthesis on. -/
def callWith (arguments : Walk (List Tree)) (name : String) (position : Nat) : Walk Tree :=
  match Function.ofName? (lowerAscii name) with
  | none => throw (.failed (.unknownFunction name))
  | some f => do
    match ← accept ts (mark .openParen) with
    | none =>
      let t ← current ts
      throw (.unopened (text? t) (place d t))
    | some () =>
      let args ← arguments
      expect d ts .closeParen
      match Descent.call f position args with
      | .ok t => pure t
      | .error e => throw (.failed e)

/-- What a method does, with what it calls. -/
def body (calls : (m : Method) → Walk m.Result) : (m : Method) → Walk m.Result
  | .conditional => do
    let condition ← calls (.chain .comparison)
    match ← accept ts (mark .question) with
    | some () =>
      let whenTrue ← calls .conditional
      expect d ts .colon
      let whenFalse ← calls .conditional
      pure (.choice condition whenTrue whenFalse)
    | none => pure condition
  | .chain level => do
    let left ← calls (.operand level)
    calls (.chainAfter level left)
  | .chainAfter level left => do
    match ← accept ts (levelOperator? level) with
    | some op =>
      let right ← calls (.operand level)
      calls (.chainAfter level (.binary op left right))
    | none => pure left
  | .operand .comparison => calls (.chain .additive)
  | .operand .additive => calls (.chain .multiplicative)
  | .operand .multiplicative => calls .signed
  | .signed => nested d ts do
    match ← accept ts signOf? with
    | some sign =>
      let t ← calls .signed
      pure (.signed sign t)
    | none => calls .powered
  | .powered => do
    let base ← calls .primary
    match ← accept ts (mark (.operator .pow)) with
    | some () =>
      let exponent ← calls .signed
      pure (.binary .pow base exponent)
    | none => pure base
  | .primary => do
    match ← current ts with
    | some ⟨.number digits, _⟩ =>
      advance ts
      pure (Descent.numberTree digits)
    | some ⟨.name name, position⟩ =>
      advance ts
      match ← current ts with
      | some ⟨.openParen, _⟩ => callWith d ts (calls .arguments) name position
      | _ => pure (Descent.meaning name)
    | some ⟨.openParen, _⟩ =>
      advance ts
      let t ← calls .conditional
      expect d ts .closeParen
      pure t
    | t => throw (.failed (.unexpectedToken (text? t) (place d t)))
  | .call name position => callWith d ts (calls .arguments) name position
  | .arguments => do
    match ← current ts with
    | some ⟨.closeParen, _⟩ => pure []
    | _ =>
      let first ← calls .conditional
      let others ← calls .moreArguments
      pure (first :: others)
  | .moreArguments => do
    match ← accept ts (mark .comma) with
    | some () =>
      let next ← calls .conditional
      let others ← calls .moreArguments
      pure (next :: others)
    | none => pure []

/-- A method, with a bound on how many calls lie one inside another. -/
def run : Nat → (m : Method) → Walk m.Result
  | 0, _ => throw (.failed .exhausted)
  | steps + 1, m => body d ts (run steps) m

/-! ### The steps of a walk -/

variable {d ts} {α β : Type} {w : Walk α} {f : α → Walk β} {c : Cursor} {p : Token → Option β}

/-- A walk in two parts. -/
lemma start_bind : start (w >>= f) c =
    match start w c with
    | (.ok a, c') => start (f a) c'
    | (.error h, c') => (.error h, c') := by
  simp only [start, ExceptT.run_bind, StateT.run_bind]
  rcases StateT.run (ExceptT.run w) c with ⟨a | a, c'⟩ <;> rfl

/-- The next token is the first one that is left. -/
lemma start_current (h : c.index ≤ ts.length) :
    start (current ts) c = (.ok (ts.drop c.index).head?, c) := by
  have hnext : (ts.map some ++ [none])[c.index]? = some (ts.drop c.index).head? := by
    rw [List.head?_drop]
    rcases Nat.lt_or_eq_of_le h with hlt | heq
    · rw [List.getElem?_append_left (by simpa using hlt), List.getElem?_map,
        List.getElem?_eq_getElem hlt]
      rfl
    · rw [List.getElem?_append_right (by simp [heq]), heq]
      simp
  change start (match (ts.map some ++ [none])[c.index]? with
    | some t => pure t
    | none => throw .outside) c = _
  rw [hnext]
  rfl

/-- The cursor goes on by one. -/
lemma start_advance (h : c.index ≤ ts.length) :
    start (advance ts) c = (.ok (), ⟨c.index + 1, c.depth⟩) := by
  rw [advance, start_bind, start_current h]
  rfl

/-- A token that is looked for is taken. -/
lemma start_accept (h : c.index ≤ ts.length) : start (accept ts p) c =
    match (ts.drop c.index).head?.bind p with
    | some b => (.ok (some b), ⟨c.index + 1, c.depth⟩)
    | none => (.ok none, c) := by
  rw [accept, start_bind, start_current h]
  dsimp only
  cases (ts.drop c.index).head?.bind p with
  | none => rfl
  | some b =>
    dsimp only
    rw [start_bind, start_advance h]
    rfl

/-- The depth is counted around a walk. -/
lemma start_nested (h : c.index ≤ ts.length) : start (nested d ts w) c =
    if d.limit < c.depth + 1 then
      (.error (.failed (.tooDeep d.limit (place d (ts.drop c.index).head?))),
        ⟨c.index, c.depth + 1⟩)
    else ((start w ⟨c.index, c.depth + 1⟩).1, ⟨(start w ⟨c.index, c.depth + 1⟩).2.index,
      (start w ⟨c.index, c.depth + 1⟩).2.depth - 1⟩) := by
  have hnext : start (current ts) ⟨c.index, c.depth + 1⟩ = _ := start_current h
  change start (if d.limit < c.depth + 1 then _ else _) ⟨c.index, c.depth + 1⟩ = _
  split
  · rw [start_bind, hnext]
    rfl
  · rfl

/-- What is looked up in the list is a token, not the mark, as long as some are left. -/
lemma lt_length_of_head? {t : Token} (h : (ts.drop c.index).head? = some t) :
    c.index < ts.length := by
  by_contra hge
  rw [List.drop_eq_nil_of_le (Nat.not_lt.1 hge)] at h
  exact absurd h nofun

end Walk

/-! ### Where the cursor is -/

open Walk

/-- Where a cursor is after a walk that starts at `c`: not before that and not beyond the mark at
the end, of which nothing is looked up beyond. If the walk does not halt, the depth is as it was,
and a token has been taken if `taken` says so. -/
structure Moves {α : Type} (ts : List Token) (taken : Bool) (c : Cursor)
    (r : Except Halt α × Cursor) : Prop where
  /-- the cursor does not go back -/
  le : c.index ≤ r.2.index
  /-- the mark at the end is not taken -/
  le_length : r.2.index ≤ ts.length
  /-- nothing is looked up beyond the list -/
  inside : r.1 ≠ .error .outside
  /-- the depth is counted back, and a token is taken -/
  returns : ∀ a, r.1 = .ok a → r.2.depth = c.depth ∧ (taken = true → c.index < r.2.index)

namespace Moves

variable {d : Descent} {ts : List Token} {α β : Type} {w : Walk α} {f : α → Walk β} {c : Cursor}
  {s t : Bool} {r : Except Halt α × Cursor}

/-- A cursor that does not move. -/
lemma pure (h : c.index ≤ ts.length) (a : α) : Moves ts false c (.ok a, c) :=
  ⟨le_rfl, h, nofun, fun _ _ => ⟨rfl, nofun⟩⟩

/-- A formula is rejected. -/
lemma halt (h : c.index ≤ ts.length) {e : Halt} (he : e ≠ .outside) :
    Moves ts s c ((.error e, c) : Except Halt α × Cursor) :=
  ⟨le_rfl, h, fun heq => he (Except.error.inj heq), nofun⟩

/-- A token that is taken need not be told. -/
lemma weaken (h : Moves ts s c r) : Moves ts false c r :=
  ⟨h.le, h.le_length, h.inside, fun a ha => ⟨(h.returns a ha).1, nofun⟩⟩

/-- A walk in two parts. It takes a token if the first part does. -/
lemma bind (h : Moves ts s c (start w c))
    (hf : ∀ a c', c'.index ≤ ts.length → Moves ts false c' (start (f a) c')) :
    Moves ts s c (start (w >>= f) c) := by
  rw [start_bind]
  rcases hw : start w c with ⟨a | a, c'⟩
  · rw [hw] at h
    exact ⟨h.le, h.le_length, fun heq => h.inside (by rw [Except.error.inj heq]), nofun⟩
  · rw [hw] at h
    obtain ⟨hdepth, htaken⟩ := h.returns a rfl
    have hrest := hf a c' h.le_length
    refine ⟨h.le.trans hrest.le, hrest.le_length, hrest.inside, fun b hb => ?_⟩
    exact ⟨(hrest.returns b hb).1.trans hdepth, fun hs => (htaken hs).trans_le hrest.le⟩

/-- What comes after a token that is taken. -/
lemma of_advanced (h : Moves ts false ⟨c.index + 1, c.depth⟩ r) : Moves ts s c r :=
  ⟨(Nat.le_succ _).trans h.le, h.le_length, h.inside, fun a ha =>
    ⟨(h.returns a ha).1, fun _ => h.le⟩⟩

/-- The next token is looked at. -/
lemma current_bind {f : Option Token → Walk β} (h : c.index ≤ ts.length)
    (hf : Moves ts s c (start (f (ts.drop c.index).head?) c)) :
    Moves ts s c (start (current ts >>= f) c) := by
  rwa [start_bind, start_current h]

/-- A token is taken. -/
lemma advance_bind {f : Unit → Walk β} (h : c.index < ts.length)
    (hf : ∀ c', c'.index ≤ ts.length → Moves ts false c' (start (f ()) c')) :
    Moves ts s c (start (advance ts >>= f) c) := by
  rw [start_bind, start_advance h.le]
  exact (hf ⟨c.index + 1, c.depth⟩ h).of_advanced

/-- A token is taken if it is one that is looked for. -/
lemma accept_bind {p : Token → Option α} {f : Option α → Walk β} (h : c.index ≤ ts.length)
    (hsome : ∀ a c', c'.index ≤ ts.length → Moves ts false c' (start (f (some a)) c'))
    (hnone : Moves ts s c (start (f none) c)) : Moves ts s c (start (accept ts p >>= f) c) := by
  rw [start_bind, start_accept h]
  cases hnext : (ts.drop c.index).head?.bind p with
  | none => exact hnone
  | some a =>
    obtain ⟨next, hhead, -⟩ := Option.bind_eq_some_iff.1 hnext
    exact (hsome a ⟨c.index + 1, c.depth⟩ (lt_length_of_head? hhead)).of_advanced

/-- A token that must be there is taken. -/
lemma expect (h : c.index ≤ ts.length) (required : Required) :
    Moves ts true c (start (expect d ts required) c) :=
  accept_bind h (fun _ _ hc => pure hc _) (current_bind h (halt h nofun))

/-- The depth is counted around a walk. -/
lemma nested (h : c.index ≤ ts.length)
    (hw : Moves ts s ⟨c.index, c.depth + 1⟩ (start w ⟨c.index, c.depth + 1⟩)) :
    Moves ts s c (start (nested d ts w) c) := by
  rw [start_nested h]
  split
  · exact ⟨le_rfl, h, nofun, nofun⟩
  · refine ⟨hw.le, hw.le_length, hw.inside, fun a ha => ?_⟩
    obtain ⟨hdepth, htaken⟩ := hw.returns a ha
    refine ⟨?_, htaken⟩
    dsimp only at hdepth ⊢
    omega

/-- A call takes its parentheses. -/
lemma callWith {arguments : Walk (List Tree)} {name : String} {position : Nat}
    (h : c.index ≤ ts.length)
    (hargs : ∀ c', c'.index ≤ ts.length → Moves ts false c' (start arguments c')) :
    Moves ts true c (start (callWith d ts arguments name position) c) := by
  unfold Walk.callWith
  split
  · exact halt h nofun
  · refine accept_bind h (fun _ c' hc => ?_) (current_bind h (halt h nofun))
    refine (hargs c' hc).bind fun args c' hc => ?_
    refine (expect hc .closeParen).weaken.bind fun _ c' hc => ?_
    split
    · exact pure hc _
    · exact halt hc nofun

end Moves

namespace Walk

variable {d : Descent} {ts : List Token} {calls : (m : Method) → Walk m.Result} {c : Cursor}

/-- A number, a name, a call or parentheses take a token. -/
lemma moves_body_primary
    (ih : ∀ m c, c.index ≤ ts.length → Moves ts m.takes c (start (calls m) c))
    (h : c.index ≤ ts.length) : Moves ts true c (start (body d ts calls .primary) c) := by
  refine .current_bind h ?_
  split
  · next hhead => exact .advance_bind (lt_length_of_head? hhead) fun c hc => .pure hc _
  · next hhead =>
    refine .advance_bind (lt_length_of_head? hhead) fun c hc => .current_bind hc ?_
    split
    · exact (Moves.callWith hc fun c hc => ih .arguments c hc).weaken
    · exact .pure hc _
  · next hhead =>
    refine .advance_bind (lt_length_of_head? hhead) fun c hc => ?_
    refine (ih .conditional c hc).weaken.bind fun t c hc => ?_
    exact (Moves.expect hc _).weaken.bind fun _ c hc => .pure hc _
  · exact .halt h nofun

/-- **What a method does with the cursor**, if what it calls keeps to the list and to the depth. -/
lemma moves_body (ih : ∀ m c, c.index ≤ ts.length → Moves ts m.takes c (start (calls m) c))
    (m : Method) (h : c.index ≤ ts.length) : Moves ts m.takes c (start (body d ts calls m) c) := by
  cases m with
  | conditional =>
    refine (ih (.chain .comparison) c h).bind fun condition c hc => ?_
    refine .accept_bind hc (fun _ c hc => ?_) (.pure hc _)
    refine (ih .conditional c hc).weaken.bind fun whenTrue c hc => ?_
    refine (Moves.expect hc _).weaken.bind fun _ c hc => ?_
    exact (ih .conditional c hc).weaken.bind fun whenFalse c hc => .pure hc _
  | chain level =>
    exact (ih (.operand level) c h).bind fun left c hc => ih (.chainAfter level left) c hc
  | chainAfter level left =>
    refine .accept_bind h (fun op c hc => ?_) (.pure h _)
    exact (ih (.operand level) c hc).weaken.bind fun right c hc => ih (.chainAfter level _) c hc
  | operand level =>
    cases level with
    | comparison => exact ih (.chain .additive) c h
    | additive => exact ih (.chain .multiplicative) c h
    | multiplicative => exact ih .signed c h
  | signed =>
    refine .nested h (.accept_bind h (fun sign c hc => ?_) (ih .powered _ h))
    exact (ih .signed c hc).weaken.bind fun t c hc => .pure hc _
  | powered =>
    refine (ih .primary c h).bind fun base c hc => ?_
    refine .accept_bind hc (fun _ c hc => ?_) (.pure hc _)
    exact (ih .signed c hc).weaken.bind fun exponent c hc => .pure hc _
  | primary => exact moves_body_primary ih h
  | call name position => exact .callWith h fun c hc => ih .arguments c hc
  | arguments =>
    refine .current_bind h ?_
    split
    · exact .pure h _
    · refine (ih .conditional c h).weaken.bind fun first c hc => ?_
      exact (ih .moreArguments c hc).bind fun others c hc => .pure hc _
  | moreArguments =>
    refine .accept_bind h (fun _ c hc => ?_) (.pure h _)
    refine (ih .conditional c hc).weaken.bind fun next c hc => ?_
    exact (ih .moreArguments c hc).bind fun others c hc => .pure hc _

/-- **Every method keeps to the list and to the depth.** -/
theorem moves_run (steps : Nat) (m : Method) (c : Cursor) (h : c.index ≤ ts.length) :
    Moves ts m.takes c (start (run d ts steps m) c) := by
  induction steps generalizing m c with
  | zero => exact .halt h nofun
  | succ steps ih => exact moves_body ih m h

end Walk

/-! ### How many steps are enough -/

/-- The place of a method among those that call each other without a token being taken: what a
method calls so has a lesser place. -/
def Method.rank : Method → Nat
  | .arguments => 11
  | .conditional => 10
  | .chain .comparison => 9
  | .operand .comparison => 8
  | .chain .additive => 7
  | .operand .additive => 6
  | .chain .multiplicative => 5
  | .operand .multiplicative => 4
  | .signed => 3
  | .powered => 2
  | .primary | .call .. | .chainAfter .. | .moreArguments => 1

/-- How many steps are enough for a method: each token that is left may lead through all places. -/
def Method.need (m : Method) (ts : List Token) (c : Cursor) : Nat :=
  12 * (ts.length - c.index) + m.rank

/-- A walk does not run out of steps, and comes to the same with more of them. -/
def Completes {α : Type} (r r' : Except Halt α × Cursor) : Prop :=
  r' = r ∧ r.1 ≠ .error (.failed .exhausted)

/-- What is called has enough steps if it needs at most so many. -/
structure Enough (ts : List Token) (steps : Nat) (calls calls' : (m : Method) → Walk m.Result) :
    Prop where
  /-- the methods keep to the list -/
  moves : ∀ m c, c.index ≤ ts.length → Moves ts m.takes c (start (calls m) c)
  /-- the methods have enough steps -/
  completes : ∀ m c, c.index ≤ ts.length → m.need ts c ≤ steps →
    Completes (start (calls m) c) (start (calls' m) c)

section

variable {d : Descent} {ts : List Token} {steps : Nat} {calls calls' : (m : Method) → Walk m.Result}
  {α β : Type} {w w' : Walk α} {c : Cursor}

namespace Completes

/-- A walk that does not call anything. -/
lemma refl {r : Except Halt α × Cursor} (h : r.1 ≠ .error (.failed .exhausted)) : Completes r r :=
  ⟨rfl, h⟩

/-- A walk in two parts. -/
lemma bind {f f' : α → Walk β} {s : Bool} (h : Completes (start w c) (start w' c))
    (hw : Moves ts s c (start w c))
    (hf : ∀ a c', c.index ≤ c'.index → c'.index ≤ ts.length → (s = true → c.index < c'.index) →
      Completes (start (f a) c') (start (f' a) c')) :
    Completes (start (w >>= f) c) (start (w' >>= f') c) := by
  obtain ⟨hsame, hends⟩ := h
  rw [start_bind, start_bind, hsame]
  rcases hr : start w c with ⟨a | a, c'⟩
  · rw [hr] at hends
    exact refl fun heq => hends (by rw [Except.error.inj heq])
  · rw [hr] at hw
    exact hf a c' hw.le hw.le_length (hw.returns a rfl).2

/-- The next token is looked at. -/
lemma current_bind {f f' : Option Token → Walk β} (h : c.index ≤ ts.length)
    (hf : Completes (start (f (ts.drop c.index).head?) c) (start (f' (ts.drop c.index).head?) c)) :
    Completes (start (current ts >>= f) c) (start (current ts >>= f') c) := by
  rwa [start_bind, start_bind, start_current h]

/-- A token is taken. -/
lemma advance_bind {f f' : Unit → Walk β} (h : c.index < ts.length)
    (hf : ∀ c', c.index < c'.index → c'.index ≤ ts.length →
      Completes (start (f ()) c') (start (f' ()) c')) :
    Completes (start (advance ts >>= f) c) (start (advance ts >>= f') c) := by
  rw [start_bind, start_bind, start_advance h.le]
  exact hf ⟨c.index + 1, c.depth⟩ (Nat.lt_succ_self _) h

/-- A token is taken if it is one that is looked for. -/
lemma accept_bind {p : Token → Option α} {f f' : Option α → Walk β} (h : c.index ≤ ts.length)
    (hsome : ∀ a c', c.index < c'.index → c'.index ≤ ts.length →
      Completes (start (f (some a)) c') (start (f' (some a)) c'))
    (hnone : Completes (start (f none) c) (start (f' none) c)) :
    Completes (start (accept ts p >>= f) c) (start (accept ts p >>= f') c) := by
  rw [start_bind, start_bind, start_accept h]
  cases hnext : (ts.drop c.index).head?.bind p with
  | none => exact hnone
  | some a =>
    obtain ⟨next, hhead, -⟩ := Option.bind_eq_some_iff.1 hnext
    exact hsome a ⟨c.index + 1, c.depth⟩ (Nat.lt_succ_self _) (lt_length_of_head? hhead)

/-- A token that must be there. -/
lemma expect_bind {f f' : Unit → Walk β} (h : c.index ≤ ts.length) (required : Required)
    (hf : ∀ c', c.index < c'.index → c'.index ≤ ts.length →
      Completes (start (f ()) c') (start (f' ()) c')) :
    Completes (start (expect d ts required >>= f) c) (start (expect d ts required >>= f') c) := by
  have hself : Completes (start (expect d ts required) c) (start (expect d ts required) c) :=
    accept_bind h (fun _ _ _ _ => refl nofun) (current_bind h (refl nofun))
  exact hself.bind (Moves.expect h required) fun _ c' _ hc htaken => hf c' (htaken rfl) hc

/-- The depth is counted around a walk. -/
lemma nested (h : c.index ≤ ts.length)
    (hw : Completes (start w ⟨c.index, c.depth + 1⟩) (start w' ⟨c.index, c.depth + 1⟩)) :
    Completes (start (nested d ts w) c) (start (nested d ts w') c) := by
  rw [start_nested h, start_nested h, hw.1]
  split
  · exact refl nofun
  · exact refl hw.2

end Completes

/-- A walk that starts with a call. -/
lemma Enough.bind {m : Method} {f f' : m.Result → Walk β} (he : Enough ts steps calls calls')
    (h : c.index ≤ ts.length) (hneed : m.need ts c ≤ steps)
    (hf : ∀ a c', c.index ≤ c'.index → c'.index ≤ ts.length →
      (m.takes = true → c.index < c'.index) → Completes (start (f a) c') (start (f' a) c')) :
    Completes (start (calls m >>= f) c) (start (calls' m >>= f') c) :=
  (he.completes m c h hneed).bind (he.moves m c h) hf

/-- Every place is one of eleven. -/
lemma rank_bounds (m : Method) : 1 ≤ m.rank ∧ m.rank ≤ 11 := by
  unfold Method.rank
  split <;> omega

/-- What has a lesser place needs fewer steps. -/
lemma need_le_of_rank_lt {m m' : Method} (hneed : m.need ts c ≤ steps + 1)
    (hrank : m'.rank < m.rank) : m'.need ts c ≤ steps := by
  rw [Method.need] at hneed ⊢
  omega

/-- What is called after a token has been taken needs fewer steps, whatever its place is. -/
lemma need_le_of_lt {m : Method} {c' : Cursor} (hneed : m.need ts c ≤ steps + 1)
    (hlt : c.index < c'.index) (hle : c'.index ≤ ts.length) (m' : Method) :
    m'.need ts c' ≤ steps := by
  have := (rank_bounds m).1
  have := (rank_bounds m').2
  rw [Method.need] at hneed ⊢
  omega

namespace Enough

/-- A call has enough steps, as its opening parenthesis is taken before its arguments are read. -/
lemma callWith {m : Method} {name : String} {position : Nat} (he : Enough ts steps calls calls')
    (h : c.index ≤ ts.length) (hneed : m.need ts c ≤ steps + 1) :
    Completes (start (callWith d ts (calls .arguments) name position) c)
      (start (callWith d ts (calls' .arguments) name position) c) := by
  unfold Walk.callWith
  split
  · exact .refl nofun
  · refine .accept_bind h (fun _ c₁ hlt hc => ?_) (.current_bind h (.refl nofun))
    refine he.bind hc (need_le_of_lt hneed hlt hc _) fun args c₂ _ hc _ => ?_
    refine .expect_bind hc _ fun c₃ _ hc => ?_
    split
    · exact .refl nofun
    · next e herror =>
      refine .refl fun heq => ?_
      injection heq with heq
      injection heq with heq
      rw [heq, Descent.call] at herror
      split at herror <;> nomatch herror

/-- A number, a name, a call or parentheses have enough steps. -/
lemma primary (he : Enough ts steps calls calls') (h : c.index ≤ ts.length)
    (hneed : Method.primary.need ts c ≤ steps + 1) :
    Completes (start (body d ts calls .primary) c) (start (body d ts calls' .primary) c) := by
  refine .current_bind h ?_
  split
  · next hhead => exact .advance_bind (lt_length_of_head? hhead) fun c₁ _ _ => .refl nofun
  · next hhead =>
    refine .advance_bind (lt_length_of_head? hhead) fun c₁ hlt hc => .current_bind hc ?_
    split
    · exact he.callWith hc (Nat.le_succ_of_le (need_le_of_lt hneed hlt hc .primary))
    · exact .refl nofun
  · next hhead =>
    refine .advance_bind (lt_length_of_head? hhead) fun c₁ hlt hc => ?_
    refine he.bind hc (need_le_of_lt hneed hlt hc _) fun t c₂ hle hc _ => ?_
    exact .expect_bind hc _ fun c₃ _ _ => .refl nofun
  · exact .refl nofun

/-- **A method has enough steps** if what it calls has.

**Proof sketch.** What a method calls before a token is taken has a lesser place. All else is called
after a token has been taken. -/
lemma body (he : Enough ts steps calls calls') {m : Method} (h : c.index ≤ ts.length)
    (hneed : m.need ts c ≤ steps + 1) :
    Completes (start (body d ts calls m) c) (start (body d ts calls' m) c) := by
  have hafter := fun {c' : Cursor} (hlt : c.index < c'.index) (hc : c'.index ≤ ts.length) =>
    need_le_of_lt hneed hlt hc
  cases m with
  | conditional =>
    refine he.bind h (need_le_of_rank_lt hneed (by decide)) fun condition c₁ _ hc htaken => ?_
    have hlt : c.index < c₁.index := htaken rfl
    refine .accept_bind hc (fun _ c₂ hlt' hc => ?_) (.refl nofun)
    refine he.bind hc (hafter (hlt.trans hlt') hc _) fun whenTrue c₃ hle hc _ => ?_
    refine .expect_bind hc _ fun c₄ hlt'' hc => ?_
    refine he.bind hc (hafter (by omega) hc _) fun whenFalse c₅ _ _ _ => .refl nofun
  | chain level =>
    refine he.bind h (need_le_of_rank_lt hneed ?_) fun left c₁ _ hc htaken => ?_
    · cases level <;> decide
    · exact he.completes (.chainAfter level left) c₁ hc (hafter (htaken rfl) hc _)
  | chainAfter level left =>
    refine .accept_bind h (fun op c₁ hlt hc => ?_) (.refl nofun)
    refine he.bind hc (hafter hlt hc _) fun right c₂ hle hc _ => ?_
    exact he.completes (.chainAfter level _) c₂ hc (hafter (hlt.trans_le hle) hc _)
  | operand level =>
    cases level with
    | comparison => exact he.completes (.chain .additive) c h (need_le_of_rank_lt hneed (by decide))
    | additive =>
      exact he.completes (.chain .multiplicative) c h (need_le_of_rank_lt hneed (by decide))
    | multiplicative => exact he.completes .signed c h (need_le_of_rank_lt hneed (by decide))
  | signed =>
    refine .nested h (.accept_bind h (fun sign c₁ hlt hc => ?_) ?_)
    · exact he.bind hc (hafter hlt hc _) fun t c₂ _ _ _ => .refl nofun
    · exact he.completes .powered _ h (need_le_of_rank_lt hneed (by decide))
  | powered =>
    refine he.bind h (need_le_of_rank_lt hneed (by decide)) fun base c₁ _ hc htaken => ?_
    have hlt : c.index < c₁.index := htaken rfl
    refine .accept_bind hc (fun _ c₂ hlt' hc => ?_) (.refl nofun)
    exact he.bind hc (hafter (hlt.trans hlt') hc _) fun exponent c₃ _ _ _ => .refl nofun
  | primary => exact he.primary h hneed
  | call name position => exact he.callWith h hneed
  | arguments =>
    refine .current_bind h ?_
    split
    · exact .refl nofun
    · refine he.bind h (need_le_of_rank_lt hneed (by decide)) fun first c₁ _ hc htaken => ?_
      refine he.bind hc (hafter (htaken rfl) hc _) fun others c₂ _ _ _ => .refl nofun
  | moreArguments =>
    refine .accept_bind h (fun _ c₁ hlt hc => ?_) (.refl nofun)
    refine he.bind hc (hafter hlt hc _) fun next c₂ hle hc _ => ?_
    exact he.bind hc (hafter (hlt.trans_le hle) hc _) fun others c₃ _ _ _ => .refl nofun

end Enough

/-- **Every method ends.** With as many steps as it needs it does not run out of them, and more do
not make a difference. -/
theorem Walk.completes_run {m : Method} (h : c.index ≤ ts.length) (hneed : m.need ts c ≤ steps) :
    Completes (start (run d ts steps m) c) (start (run d ts (steps + 1) m) c) := by
  induction steps generalizing m c with
  | zero =>
    have := (rank_bounds m).1
    rw [Method.need] at hneed
    omega
  | succ steps ih =>
    have he : Enough ts steps (run d ts steps) (run d ts (steps + 1)) :=
      ⟨moves_run steps, fun m c hc hneed => ih hc hneed⟩
    exact he.body h hneed

end

end Tariff.Formula
