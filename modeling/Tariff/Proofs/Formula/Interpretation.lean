import Tariff.Proofs.Formula.Exactness
import Tariff.Proofs.Formula.LongSum
import Tariff.Proofs.Members

/-!
# Calls by name

A tree has its own form for each function, so no call in it can have a wrong number of arguments.
Here calls are by name, with any number of arguments, and their interpretation can find that there
is no such function or that an argument is not there. On what is read it never does, because the
grammar admits functions only and counts their arguments: it agrees with the evaluation of the tree.
What is left to go wrong is that calls are nested too deeply, which the limits of formulas do not
exclude.

## Main definitions

* `Tariff.Formula.Node` — a phrase without its parentheses, with calls by name.
* `Tariff.Formula.Defect` — what an interpretation can find wrong with a call.
* `Tariff.Formula.Node.run` — the interpretation of a node.

## Main results

* `Tariff.Formula.agrees_node` — the interpretation agrees with the evaluation of the tree.
* `Tariff.Formula.run_node_ne_defect` — it finds no defect.
* `Tariff.Formula.value_closed` — the value of a formula is a finite number or an error of formulas,
  if there is room for its calls.
-/

set_option autoImplicit false

namespace Tariff.Formula

open Tariff.Money Tariff.Number Tariff.Text

/-! ### Nodes -/

/-- What a formula says, with calls by name. These six forms are all that there are. -/
inductive Node where
  /-- a number -/
  | number (x : Float)
  /-- no value -/
  | null
  /-- the value of a name -/
  | named (name : String)
  /-- an operand with a sign -/
  | signed (sign : Sign) (operand : Node)
  /-- two operands with an operator between them -/
  | binary (op : Operator) (left right : Node)
  /-- the call of a function by its name, in small letters -/
  | call (name : String) (args : List Node)

/-- The node of a word that is not called. -/
def wordNode (name : String) : Node :=
  match lowerAscii name with
  | "true" => .number 1.0
  | "false" => .number 0.0
  | "null" | "undefined" => .null
  | _ => .named name

namespace Phrase

mutual

/-- The node of a phrase, whether its calls are allowed or not. A choice is a call of three
arguments. -/
def node : Phrase → Node
  | number digits => .number ((readFloat? digits).getD 0.0)
  | word name => wordNode name
  | call name args => .call (lowerAscii name) (nodes args)
  | group p => p.node
  | power b e => .binary .pow b.node e.node
  | signed sign p => .signed sign p.node
  | binary op l r => .binary op l.node r.node
  | choice c a b => .call "if" [c.node, a.node, b.node]

/-- The nodes of several phrases. -/
def nodes : List Phrase → List Node
  | [] => []
  | p :: ps => p.node :: nodes ps

end

end Phrase

/-! ### Interpretations -/

/-- What an interpretation can find wrong with a call. -/
inductive Defect where
  /-- there is no function of this name -/
  | unsupported (name : String)
  /-- a choice is not between a condition and two values -/
  | notThree (given : Nat)
  /-- an argument is taken that is not there -/
  | noArgument
  /-- the number of arguments is none that the function can take -/
  | wrongCount (given : Nat)
  /-- one of no numbers is to be picked -/
  | nothingToPick

/-- Why an interpretation stops. -/
inductive Stop where
  /-- for a reason that the evaluation of a tree can have too -/
  | failure (f : Failure)
  /-- because a call is not as it should be -/
  | defect (d : Defect)

/-- An evaluation as an interpretation. -/
def Stop.lift {α : Type} (r : Except Failure α) : Except Stop α :=
  r.mapError .failure

/-- The function of one number that has a name. -/
def Mapping.ofName? : String → Option Mapping
  | "floor" => some .floor
  | "ceil" => some .ceil
  | "abs" => some .abs
  | "sqrt" => some .sqrt
  | _ => none

/-- The value of a function by its name. -/
def applyNamed (name : String) (xs : List Float) : Except Stop Float :=
  match Mapping.ofName? name with
  | some f =>
    match xs with
    | x :: _ => .ok (f.eval x)
    | [] => .error (.defect .noArgument)
  | none =>
    match name with
    | "round" =>
      match xs with
      | [x] => .ok (roundWith 1.0 x)
      | [x, digits] => Stop.lift (roundDigits x digits)
      | _ => .error (.defect (.wrongCount xs.length))
    | "min" =>
      match xs with
      | x :: rest => .ok (Extreme.least.eval x rest)
      | [] => .error (.defect .nothingToPick)
    | "max" =>
      match xs with
      | x :: rest => .ok (Extreme.greatest.eval x rest)
      | [] => .error (.defect .nothingToPick)
    | "pow" =>
      match xs with
      | x :: y :: _ => .ok (Number.power x y)
      | _ => .error (.defect .noArgument)
    | _ => .error (.defect (.unsupported name))

/-- One of two values, chosen by a condition, if there are three values in all. -/
def chooseOfThree : List (Option Float) → Except Stop (Option Float)
  | [condition, whenTrue, whenFalse] => .ok (if holds condition then whenTrue else whenFalse)
  | vs => .error (.defect (.notThree vs.length))

namespace Node

mutual

/-- The value of a node, or none for null. There is room for so many nested calls. -/
def run (bindings : Bindings) (room : Nat) : Node → Except Stop (Option Float)
  | number x => .ok (some x)
  | null => .ok none
  | named name => do
    let _ ← Stop.lift (inside callsToBinding room)
    Stop.lift ((numberOf bindings name).map some)
  | signed sign n => do
    let room ← Stop.lift (inside callsToOperand room)
    let x ← Stop.lift (needed (← n.run bindings room))
    .ok (some (sign.eval x))
  | binary op l r => do
    let room ← Stop.lift (inside callsToOperand room)
    let x ← Stop.lift (needed (← l.run bindings room))
    let y ← Stop.lift (needed (← r.run bindings room))
    .ok (some (op.eval x y))
  | call name args =>
    if name = "if" then do
      let room ← Stop.lift (inside callsToChoice room)
      let vs ← runAll bindings room args
      chooseOfThree vs
    else do
      let room ← Stop.lift (inside callsToArgument room)
      let xs ← runNumbers bindings room args
      (applyNamed name xs).map some

/-- The values of several nodes. -/
def runAll (bindings : Bindings) (room : Nat) : List Node → Except Stop (List (Option Float))
  | [] => .ok []
  | n :: ns => do
    let v ← n.run bindings room
    let vs ← runAll bindings room ns
    .ok (v :: vs)

/-- The values of several nodes, which have to be numbers. -/
def runNumbers (bindings : Bindings) (room : Nat) : List Node → Except Stop (List Float)
  | [] => .ok []
  | n :: ns => do
    let x ← Stop.lift (needed (← n.run bindings room))
    let xs ← runNumbers bindings room ns
    .ok (x :: xs)

end

end Node

/-! ### Agreement -/

section Agreement

variable {bindings : Bindings} {room : Nat} {α β : Type}

/-- An evaluation in two steps is an interpretation in two steps. -/
lemma Stop.lift_bind (r : Except Failure α) (next : α → Except Failure β) :
    Stop.lift (r >>= next) = Stop.lift r >>= fun a => Stop.lift (next a) := by
  cases r <;> rfl

/-- A step that cannot fail stays one. -/
lemma Stop.lift_map (r : Except Failure α) (g : α → β) :
    Stop.lift (r.map g) = (Stop.lift r).map g := by
  cases r <;> rfl

/-- The interpretation of a node agrees with the evaluation of a tree, whatever the room is. -/
def Agrees (bindings : Bindings) (n : Node) (t : Tree) : Prop :=
  ∀ room, n.run bindings room = Stop.lift (t.eval bindings room)

/-- The numbers of nodes are those of the trees that they agree with. -/
lemma runNumbers_of_agrees {ns : List Node} {ts : List Tree}
    (h : List.Forall₂ (Agrees bindings) ns ts) :
    Node.runNumbers bindings room ns = Stop.lift (Tree.evalAll bindings room ts) := by
  induction h with
  | nil => rfl
  | cons hn _ ih =>
    rw [Node.runNumbers, Tree.evalAll, hn room, ih]
    simp only [Stop.lift_bind]
    rfl

/-- A function is found under its name only. -/
lemma Function.eq_name_of_ofName? {f : Function} {name : String}
    (h : Function.ofName? name = some f) : name = f.name := by
  have hname := List.find?_some h
  simp only [beq_iff_eq] at hname
  exact hname.symm

/-- The evaluation of a call evaluates the arguments and applies the function that has the name. -/
lemma lift_eval_of_call? {f : Function} {xs : List Tree} {t : Tree} (hf : f ≠ .choose)
    (ht : f.call? xs = some t) :
    Stop.lift (t.eval bindings room) =
      Stop.lift (inside callsToArgument room) >>= fun room =>
        Stop.lift (Tree.evalAll bindings room xs) >>= fun ys =>
          (applyNamed f.name ys).map some := by
  unfold Function.call? at ht
  split at ht
  case h_9 => exact absurd rfl hf
  case h_6 =>
    obtain rfl := Option.some.inj ht
    simp only [Tree.eval, Tree.evalAll, Stop.lift_bind, Stop.lift_map, bind_assoc]
    rfl
  all_goals first
    | (obtain rfl := Option.some.inj ht
       simp only [Tree.eval, Tree.evalAll, Stop.lift_bind, bind_assoc]
       rfl)
    | simp at ht

/-- A choice that is called has three arguments. -/
lemma Function.eq_of_call?_choose {xs : List Tree} {t : Tree}
    (h : Function.call? .choose xs = some t) :
    ∃ c a b, xs = [c, a, b] ∧ t = .choice c a b := by
  rcases xs with _ | ⟨c, _ | ⟨a, _ | ⟨b, _ | ⟨d, rest⟩⟩⟩⟩ <;> simp [Function.call?] at h
  exact ⟨c, a, b, rfl, h.symm⟩

/-- A choice by name agrees with the choice. -/
lemma agrees_choice {c a b : Tree} {nc na nb : Node} (hc : Agrees bindings nc c)
    (ha : Agrees bindings na a) (hb : Agrees bindings nb b) :
    Agrees bindings (.call "if" [nc, na, nb]) (.choice c a b) := by
  intro room
  rw [Node.run, if_pos rfl, Tree.eval]
  simp only [Node.runAll, hc _, ha _, hb _, Stop.lift_bind, bind_assoc]
  rfl

/-- A call by name agrees with the call of the function, if that takes as many arguments. -/
lemma agrees_call {f : Function} {ns : List Node} {xs : List Tree} {t : Tree}
    (hargs : List.Forall₂ (Agrees bindings) ns xs) (ht : f.call? xs = some t) :
    Agrees bindings (.call f.name ns) t := by
  by_cases hf : f = .choose
  · subst hf
    obtain ⟨c, a, b, rfl, rfl⟩ := Function.eq_of_call?_choose ht
    rcases hargs with _ | ⟨hc, _ | ⟨ha, _ | ⟨hb, _ | _⟩⟩⟩
    exact agrees_choice hc ha hb
  · have hname : f.name ≠ "if" := by
      cases f <;> first | exact absurd rfl hf | decide
    intro room
    rw [Node.run, if_neg hname, lift_eval_of_call? hf ht]
    simp only [runNumbers_of_agrees hargs]

/-- A word by itself agrees with what it stands for. -/
lemma agrees_word (name : String) : Agrees bindings (wordNode name) (Descent.meaning name) := by
  have hnumber : ∀ x, Agrees bindings (.number x) (.number x) := fun _ _ => rfl
  have hnull : Agrees bindings .null .null := fun _ => rfl
  have hnamed : ∀ s, Agrees bindings (.named s) (.named s) := by
    intro s room
    rw [Node.run, Tree.eval, Stop.lift_bind]
  unfold wordNode Descent.meaning
  split <;> simp_all

mutual

/-- The interpretation of an allowed phrase agrees with the evaluation of its tree.

**Proof sketch.** Induction on the phrase. Where a function is called, `Phrase.tree?` has checked
its name and the number of its arguments, so the interpretation finds them. -/
theorem agrees_node (bindings : Bindings) :
    ∀ (p : Phrase) (t : Tree), p.tree? = some t → Agrees bindings p.node t
  | .number digits, t, h => by
    obtain rfl := Option.some.inj h
    exact fun _ => rfl
  | .word name, t, h => by
    obtain rfl := Option.some.inj h
    exact agrees_word name
  | .group p, t, h => agrees_node bindings p t h
  | .signed sign p, t, h => by
    simp only [Phrase.tree?, Option.map_eq_some_iff] at h
    obtain ⟨x, hx, rfl⟩ := h
    have hp := agrees_node bindings p x hx
    intro room
    rw [Phrase.node, Node.run, Tree.eval]
    simp only [hp _, Stop.lift_bind]
    rfl
  | .power l r, t, h | .binary op l r, t, h => by
    simp only [Phrase.tree?, Option.bind_eq_bind, Option.bind_eq_some_iff, Option.some.injEq] at h
    obtain ⟨x, hx, y, hy, rfl⟩ := h
    have hl := agrees_node bindings l x hx
    have hr := agrees_node bindings r y hy
    intro room
    rw [Phrase.node, Node.run, Tree.eval]
    simp only [hl _, hr _, Stop.lift_bind]
    rfl
  | .choice c a b, t, h => by
    simp only [Phrase.tree?, Option.bind_eq_bind, Option.bind_eq_some_iff, Option.some.injEq] at h
    obtain ⟨x, hx, y, hy, z, hz, rfl⟩ := h
    exact agrees_choice (agrees_node bindings c x hx) (agrees_node bindings a y hy)
      (agrees_node bindings b z hz)
  | .call name args, t, h => by
    simp only [Phrase.tree?, Option.bind_eq_bind, Option.bind_eq_some_iff] at h
    obtain ⟨f, hf, xs, hxs, ht⟩ := h
    rw [Phrase.node, Function.eq_name_of_ofName? hf]
    exact agrees_call (agrees_nodes bindings args xs hxs) ht

/-- The interpretations of allowed phrases agree with the evaluations of their trees. -/
theorem agrees_nodes (bindings : Bindings) :
    ∀ (ps : List Phrase) (ts : List Tree), Phrase.trees? ps = some ts →
      List.Forall₂ (Agrees bindings) (Phrase.nodes ps) ts
  | [], ts, h => by
    obtain rfl := Option.some.inj h
    exact .nil
  | p :: ps, ts, h => by
    simp only [Phrase.trees?, Option.bind_eq_bind, Option.bind_eq_some_iff, Option.some.injEq] at h
    obtain ⟨x, hx, xs, hxs, rfl⟩ := h
    exact .cons (agrees_node bindings p x hx) (agrees_nodes bindings ps xs hxs)

end

/-- No defect is found in an allowed phrase. -/
theorem run_node_ne_defect {p : Phrase} {t : Tree} (h : p.tree? = some t) (d : Defect) :
    p.node.run bindings room ≠ .error (.defect d) := by
  intro hrun
  rw [agrees_node bindings p t h room] at hrun
  obtain ⟨f, -, hf⟩ := mapError_eq_error.1 hrun
  simp at hf

end Agreement

/-! ### Outcomes -/

section Outcomes

variable {limits : Limits} {room : Nat} {formula : Option String} {bindings : Bindings}
  {f : Failure}

/-- A name gives no number for a reason that is the formula's, or because its value is a whole
number beyond the doubles. -/
lemma numberOf_error {name : String} (h : numberOf bindings name = .error f) :
    (∃ cause, f = .formula cause) ∨
      ∃ n, lookup? name bindings = some (.int n) ∧ ofInt? n = none := by
  unfold numberOf at h
  split at h
  · exact .inl ⟨_, (Except.error.inj h).symm⟩
  · simp at h
  · simp at h
  · next n hlookup =>
    split at h
    · simp at h
    · next hn => exact .inr ⟨n, hlookup, hn⟩
  · exact .inl ⟨_, (Except.error.inj h).symm⟩

/-- If the whole numbers among the values are within the doubles, a formula without a value has an
error of formulas, or there is too little room for its calls. -/
lemma cases_of_value_error
    (hints : ∀ name n, lookup? name bindings = some (.int n) → (ofInt? n).isSome = true)
    (h : value limits room formula bindings = .error f) : (∃ cause, f = .formula cause) ∨
      f = .fault .callsExhausted ∧ ∃ t, parse limits formula = .ok t ∧ room < t.calls := by
  rcases value_error h with ⟨cause, -, rfl⟩ | ⟨t, ht, hstop⟩
  · exact .inl ⟨cause, rfl⟩
  cases hstop with
  | name _ hname =>
    rcases numberOf_error hname with hcause | ⟨n, hlookup, hn⟩
    · exact .inl hcause
    · have hsome := hints _ n hlookup
      rw [hn] at hsome
      simp at hsome
  | numeric _ => exact .inl ⟨_, rfl⟩
  | calls => exact .inr ⟨rfl, t, ht, (takesRoom_value bindings ht).lt_of_eq_exhausted h⟩

/-- A trial has an outcome, or it fails as the value does, and then not for an error of formulas. -/
lemma trial_cases : (∃ outcome, trial limits room formula bindings = .ok outcome) ∨
    ∃ f, value limits room formula bindings = .error f ∧ (∀ cause, f ≠ .formula cause) ∧
      trial limits room formula bindings = .error f := by
  unfold trial
  split
  · exact .inl ⟨_, rfl⟩
  · next f hne hprice =>
    exact .inr ⟨f, map_eq_error.1 hprice, fun cause hcause => hne cause hcause, rfl⟩
  · split
    · exact .inl ⟨_, rfl⟩
    · exact .inl ⟨_, rfl⟩

/-- **Evaluation is closed, if there is room for the calls.** Under values whose whole numbers are
within the doubles, a formula has a value that is neither not-a-number nor infinite, or it has an
error of formulas, or it ends in a fault for want of room. The last is so only if there is less room
than the calls of its tree take, and then no formula has a value: one that has a value with more
room ends in the fault. But for the fault, a trial always has an outcome. What is read stands for a
phrase of the grammar whose calls by name are interpreted as its tree is evaluated: no function is
unsupported, no argument is missing and nothing is picked of no numbers.

**Proof sketch.** Why a formula has no value is `value_error`, and a fault for want of room shows
that there is too little (`takesRoom_value`). The interpretation agrees with the evaluation form by
form (`agrees_node`). -/
theorem value_closed (limits : Limits) (room : Nat) (formula : Option String)
    (bindings : Bindings)
    (hints : ∀ name n, lookup? name bindings = some (.int n) → (ofInt? n).isSome = true) :
    ((∃ x, value limits room formula bindings = .ok x ∧ x.isNaN = false ∧ x.isInf = false) ∨
      (∃ cause, value limits room formula bindings = .error (.formula cause)) ∨
      value limits room formula bindings = .error (.fault .callsExhausted) ∧
        ∃ t, parse limits formula = .ok t ∧ room < t.calls) ∧
    (∀ t, parse limits formula = .ok t → room < t.calls →
      ∀ enough x, value limits enough formula bindings = .ok x →
        value limits room formula bindings = .error (.fault .callsExhausted)) ∧
    (∀ text t, formula = some text → parse limits formula = .ok t →
      ∃ ts p, tokens (oneLineChars text) = .ok ts ∧
        Derives .conditional (ts.map Token.lexeme) p ∧ p.tree? = some t ∧
        p.node.run bindings room = Stop.lift (t.eval bindings room) ∧
        ∀ d, p.node.run bindings room ≠ .error (.defect d)) ∧
    ((∃ outcome, trial limits room formula bindings = .ok outcome) ∨
      trial limits room formula bindings = .error (.fault .callsExhausted) ∧
        value limits room formula bindings = .error (.fault .callsExhausted)) := by
  refine ⟨?_, ?_, ?_, ?_⟩
  · cases hvalue : value limits room formula bindings with
    | ok x => exact .inl ⟨x, rfl, value_eq_ok hvalue⟩
    | error f =>
      rcases cases_of_value_error hints hvalue with ⟨cause, rfl⟩ | ⟨rfl, htree⟩
      · exact .inr (.inl ⟨cause, rfl⟩)
      · exact .inr (.inr ⟨rfl, htree⟩)
  · intro t ht hlt enough x hx
    exact (takesRoom_value bindings ht).eq_exhausted hx hlt
  · rintro text t rfl ht
    obtain ⟨-, -, ts, p, hts, hp, -, -, htree⟩ := parse_eq_ok_iff_derives.1 ht
    exact ⟨ts, p, hts, hp, htree, agrees_node bindings p t htree room, run_node_ne_defect htree⟩
  · rcases @trial_cases limits room formula bindings with houtcome | ⟨f, hvalue, hne, htrial⟩
    · exact .inl houtcome
    · obtain ⟨cause, rfl⟩ | ⟨rfl, -⟩ := cases_of_value_error hints hvalue
      · exact absurd rfl (hne cause)
      · exact .inr ⟨htrial, hvalue⟩

/-- Evaluation is closed under a double, a truth value and a text. -/
theorem value_closed_of_three :
    (∀ name n, lookup? name [("x", Value.float 2.0), ("b", .bool true), ("s", .text "")] =
      some (.int n) → (ofInt? n).isSome = true) ∧
    ((∃ x, value .standard standardCalls (some "x/b")
        [("x", Value.float 2.0), ("b", .bool true), ("s", .text "")] = .ok x ∧
        x.isNaN = false ∧ x.isInf = false) ∨
      ∃ cause, value .standard standardCalls (some "x/b")
        [("x", Value.float 2.0), ("b", .bool true), ("s", .text "")] =
          .error (.formula cause)) := by
  have hints : ∀ name n,
      lookup? name [("x", Value.float 2.0), ("b", .bool true), ("s", .text "")] = some (.int n) →
      (ofInt? n).isSome = true := by
    intro name n h
    simpa using mem_of_lookup? h
  have hcalls : (parse .standard (some "x/b")).toOption.all fun t =>
      decide (t.calls ≤ standardCalls) := by decide +kernel
  refine ⟨hints, ?_⟩
  rcases (value_closed .standard standardCalls (some "x/b") _ hints).1 with
    hvalue | hcause | ⟨-, t, ht, hlt⟩
  · exact .inl hvalue
  · exact .inr hcause
  · rw [ht] at hcalls
    exact absurd hlt (Nat.not_lt.2 (by simpa [Except.toOption] using hcalls))

/-- A sum of six hundred ones is read under the standard limits, and has neither a value nor an
error of formulas. -/
theorem value_of_six_hundred :
    (∃ t, parse .standard (some (sumOfOnes 599)) = .ok t) ∧
    value .standard standardCalls (some (sumOfOnes 599)) [] = .error (.fault .callsExhausted) ∧
    trial .standard standardCalls (some (sumOfOnes 599)) [] =
      .error (.fault .callsExhausted) := by
  have hdepth : 1 ≤ Limits.standard.depth := by decide
  have hlength : ∀ limit, Limits.standard.length = some limit → (2 * 599 + 1 : Nat) ≤ limit := by
    rintro _ ⟨⟩
    decide
  have hvalue := @value_sumOfOnes 599 standardCalls .standard [] hdepth hlength (by decide)
  refine ⟨⟨_, parse_sumOfOnes hdepth hlength⟩, hvalue, ?_⟩
  rw [trial, price, hvalue]
  rfl

end Outcomes

end Tariff.Formula
