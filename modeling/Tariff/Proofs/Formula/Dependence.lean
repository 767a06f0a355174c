import Tariff.Proofs.Formula.Evaluation
import Tariff.Proofs.Members

/-!
# What an evaluation depends on

The evaluation of a tree asks for the numbers of its names, from left to right, and for nothing
else. If it succeeds it has asked for all of them, also for those in a value that a condition does
not choose.

## Main definitions

* `Tariff.Formula.Asks` — a computation asks for the numbers of exactly the given names.

## Main results

* `Tariff.Formula.asks_eval` — the evaluation of a tree asks for its names.
* `Tariff.Formula.value_depends_on_names` — the value of a formula depends on the names that it
  uses, on each of them and on nothing else.

## Design

That nothing else is asked for and that everything is asked for are proved together, as one property
of computations that is kept by putting computations one after the other. The induction over the
trees then has to follow only how the evaluation of each form is put together.
-/

set_option autoImplicit false

namespace Tariff.Formula

open Tariff.Money

/-! ### Computations that ask for numbers -/

/-- A computation under bindings asks for the numbers of the given names and for nothing else. -/
structure Asks {α : Type} (names : List String) (run : Bindings → Except Failure α) : Prop where
  /-- where the names have the same numbers, the outcome is the same -/
  congr : ∀ {b b' : Bindings}, (∀ name ∈ names, numberOf b name = numberOf b' name) →
    run b = run b'
  /-- if there is a result, every name has a number -/
  strict : ∀ {b : Bindings} {a : α}, run b = .ok a →
    ∀ name ∈ names, ∃ x, numberOf b name = .ok x
  /-- if some names lose their numbers for one and the same reason, that is the outcome -/
  fails : ∀ {b b' : Bindings} {a : α} {f : Failure}, run b = .ok a →
    (∀ name ∈ names, numberOf b name = numberOf b' name ∨ numberOf b' name = .error f) →
    (∃ name ∈ names, numberOf b' name = .error f) → run b' = .error f

section

variable {α β : Type} {names others : List String} {run : Bindings → Except Failure α}

/-- An outcome that is known asks for nothing. -/
lemma Asks.known (r : Except Failure α) : Asks [] fun _ => r where
  congr _ := rfl
  strict _ := by simp
  fails _ _ h := by simp at h

/-- The number of a name asks for that name. -/
lemma asks_numberOf (name : String) : Asks [name] fun b => numberOf b name where
  congr h := h name List.mem_cons_self
  strict h := by
    intro other hother
    rw [List.mem_singleton.1 hother]
    exact ⟨_, h⟩
  fails _ _ h := by
    obtain ⟨other, hother, h⟩ := h
    rwa [List.mem_singleton.1 hother] at h

/-- A computation that goes on after another one asks for the names of both. -/
lemma Asks.bind {next : α → Bindings → Except Failure β} (hrun : Asks names run)
    (hnext : ∀ a, Asks others (next a)) :
    Asks (names ++ others) fun b => run b >>= fun a => next a b where
  congr := by
    intro b b' h
    have hfirst := hrun.congr fun name hname => h name (List.mem_append_left _ hname)
    rw [hfirst]
    cases run b' with
    | error f => rfl
    | ok a => exact (hnext a).congr fun name hname => h name (List.mem_append_right _ hname)
  strict := by
    intro b r h name hname
    obtain ⟨a, ha, hr⟩ := bind_eq_ok.1 h
    rcases List.mem_append.1 hname with hname | hname
    · exact hrun.strict ha name hname
    · exact (hnext a).strict hr name hname
  fails := by
    intro b b' r f h hsame hlost
    obtain ⟨a, ha, hr⟩ := bind_eq_ok.1 h
    have hsame₁ := fun name hname => hsame name (List.mem_append_left _ hname)
    have hsame₂ := fun name hname => hsame name (List.mem_append_right _ hname)
    by_cases hfirst : ∃ name ∈ names, numberOf b' name = .error f
    · exact bind_eq_error.2 (.inl (hrun.fails ha hsame₁ hfirst))
    -- the first computation has what it needs, so the loss shows in the second one
    have hkept : run b' = .ok a := by
      rw [← ha]
      exact (hrun.congr fun name hname =>
        (hsame₁ name hname).resolve_right fun hlost => hfirst ⟨name, hname, hlost⟩).symm
    refine bind_eq_error.2 (.inr ⟨a, hkept, (hnext a).fails hr hsame₂ ?_⟩)
    obtain ⟨name, hname, hlost⟩ := hlost
    rcases List.mem_append.1 hname with hname | hname
    · exact absurd ⟨name, hname, hlost⟩ hfirst
    · exact ⟨name, hname, hlost⟩

/-- An operand that is needed as a number asks for the same names. -/
lemma Asks.bind_needed {run : Bindings → Except Failure (Option Float)}
    {next : Float → Bindings → Except Failure β} (hrun : Asks names run)
    (hnext : ∀ x, Asks others (next x)) :
    Asks (names ++ others) fun b => run b >>= fun v => needed v >>= fun x => next x b :=
  hrun.bind fun v => (Asks.known (needed v)).bind hnext

/-- What is done with the result alone asks for nothing more. -/
lemma Asks.bind_known {next : α → Except Failure β} (hrun : Asks names run) :
    Asks names fun b => run b >>= next := by
  have h := hrun.bind fun a => Asks.known (next a)
  rwa [List.append_nil] at h

/-- What lies inside of nested calls asks for its names. -/
lemma Asks.inside {run : Nat → Bindings → Except Failure α} (calls room : Nat)
    (hrun : ∀ room, Asks names (run room)) :
    Asks names fun b => Formula.inside calls room >>= fun room => run room b :=
  (Asks.known (Formula.inside calls room)).bind hrun

/-- A change of the result asks for nothing more. -/
lemma Asks.map (hrun : Asks names run) (g : α → β) : Asks names fun b => (run b).map g := by
  have h : ∀ b, (run b).map g = run b >>= fun a => .ok (g a) := by
    intro b
    cases run b <;> rfl
  simpa only [h] using hrun.bind_known

/-- How often a name is asked for, and in which order, makes no difference. -/
lemma Asks.of_mem_iff (hrun : Asks names run) (h : ∀ name, name ∈ others ↔ name ∈ names) :
    Asks others run where
  congr hsame := hrun.congr fun name hname => hsame name ((h name).2 hname)
  strict hr name hname := hrun.strict hr name ((h name).1 hname)
  fails hr hsame hlost :=
    hrun.fails hr (fun name hname => hsame name ((h name).2 hname))
      (by simpa only [h] using hlost)

end

/-! ### Trees -/

mutual

/-- The evaluation of a tree asks for the names in it. -/
theorem asks_eval : ∀ (t : Tree) (room : Nat), Asks t.occurrences fun b => t.eval b room
  | .number x, _ => .known (.ok (some x))
  | .null, _ => .known (.ok none)
  | .named name, room => by
    simpa only [Tree.eval, Tree.occurrences] using
      Asks.inside callsToBinding room fun _ => (asks_numberOf name).map some
  | .signed sign t, room => by
    simpa only [Tree.eval, Tree.occurrences, List.append_nil] using
      Asks.inside callsToOperand room fun room =>
        (asks_eval t room).bind_needed fun x => .known (.ok (some (sign.eval x)))
  | .mapped f t, room => by
    simpa only [Tree.eval, Tree.occurrences, List.append_nil] using
      Asks.inside callsToArgument room fun room =>
        (asks_eval t room).bind_needed fun x => .known (.ok (some (f.eval x)))
  | .rounded t, room => by
    simpa only [Tree.eval, Tree.occurrences, List.append_nil] using
      Asks.inside callsToArgument room fun room =>
        (asks_eval t room).bind_needed fun x => .known (.ok (some (roundWith 1.0 x)))
  | .binary op l r, room => by
    simpa only [Tree.eval, Tree.occurrences, List.append_nil] using
      Asks.inside callsToOperand room fun room =>
        (asks_eval l room).bind_needed fun x => (asks_eval r room).bind_needed fun y =>
          .known (.ok (some (op.eval x y)))
  | .power b e, room => by
    simpa only [Tree.eval, Tree.occurrences, List.append_nil] using
      Asks.inside callsToArgument room fun room =>
        (asks_eval b room).bind_needed fun x => (asks_eval e room).bind_needed fun y =>
          .known (.ok (some (Number.power x y)))
  | .roundedTo t digits, room => by
    simpa only [Tree.eval, Tree.occurrences, List.append_nil] using
      Asks.inside callsToArgument room fun room =>
        (asks_eval t room).bind_needed fun x => (asks_eval digits room).bind_needed fun n =>
          .known ((roundDigits x n).map some)
  | .choice c a b, room => by
    -- the condition chooses between two values that are there already
    simpa only [Tree.eval, Tree.occurrences, List.append_assoc, List.append_nil] using
      Asks.inside callsToChoice room fun room =>
        (asks_eval c room).bind fun condition => (asks_eval a room).bind fun whenTrue =>
          (asks_eval b room).bind fun whenFalse =>
            .known (.ok (if holds condition then whenTrue else whenFalse))
  | .extreme e t ts, room => by
    simpa only [Tree.eval, Tree.occurrences, List.append_nil] using
      Asks.inside callsToArgument room fun room =>
        (asks_eval t room).bind_needed fun x => (asks_evalAll ts room).bind fun xs =>
          .known (.ok (some (e.eval x xs)))

/-- The evaluation of several trees asks for the names in them. -/
theorem asks_evalAll : ∀ (ts : List Tree) (room : Nat),
    Asks (Tree.occurrencesIn ts) fun b => Tree.evalAll b room ts
  | [], _ => .known (.ok [])
  | t :: ts, room => by
    simpa only [Tree.evalAll, Tree.occurrencesIn, List.append_nil] using
      (asks_eval t room).bind_needed fun x => (asks_evalAll ts room).bind fun xs =>
        .known (.ok (x :: xs))

end

/-! ### Formulas -/

section

variable {limits : Limits} {room : Nat} {formula : Option String} {bindings others : Bindings}
  {t : Tree} {name : String} {x : Float}

/-- The value of a formula asks for the names that its tree uses. -/
lemma asks_value (room : Nat) (h : parse limits formula = .ok t) :
    Asks t.names fun b => value limits room formula b := by
  have hvalue : ∀ b, value limits room formula b = t.eval b room >>= finiteResult := by
    intro b
    rw [value, h]
    rfl
  simp only [hvalue]
  exact (asks_eval t room).bind_known.of_mem_iff fun _ => List.mem_eraseDups

/-- A formula that has a value has been read. -/
lemma exists_parse_of_value (h : value limits room formula bindings = .ok x) :
    ∃ t, parse limits formula = .ok t := by
  simp only [value, bind_eq_ok, mapError_eq_ok] at h
  obtain ⟨t, ht, -⟩ := h
  exact ⟨t, ht⟩

/-- A trial of a formula that has a value shows it as a price, with the names that its tree uses. -/
lemma trial_of_value (ht : parse limits formula = .ok t)
    (hx : value limits room formula bindings = .ok x) :
    trial limits room formula bindings = .ok (.value (toCents x) t.names) := by
  have hprice : price limits room formula bindings = .ok (toCents x) := by
    rw [price, hx]
    rfl
  simp only [trial, hprice, ht]

/-- A name that has a number has the same one wherever it has the same value. -/
lemma numberOf_eq (h : lookup? name others = lookup? name bindings)
    (hx : numberOf bindings name = .ok x) : numberOf bindings name = numberOf others name := by
  unfold numberOf at hx ⊢
  rw [h]
  cases hfound : lookup? name bindings with
  | none => simp [hfound] at hx
  | some v => cases v <;> rfl

/-- A name that has been removed is unknown. -/
lemma numberOf_without_self : numberOf (without name bindings) name =
    .error (.formula (.unknownVariable name (sortedNames (without name bindings)))) := by
  rw [numberOf, lookup?_without_self]

/-- **The value of a formula depends on exactly the names that it uses**, which are those that a
trial shows. Under other values for the rest the formula has the same value. Without any one of its
names it has none, because that name is unknown, whether or not a condition chooses the part in
which the name stands.

**Proof sketch.** The evaluation asks for these names and for no other, and all of them have
numbers, since there is a value. So it cannot tell apart bindings that agree on them. If one name
is removed the other names keep their numbers, and the evaluation, which still asks for all of
them, fails for the one that is missing. -/
theorem value_depends_on_names (h : value limits room formula bindings = .ok x) :
    ∃ t, parse limits formula = .ok t ∧
      trial limits room formula bindings = .ok (.value (toCents x) t.names) ∧
      (∀ others, (∀ name ∈ t.names, lookup? name others = lookup? name bindings) →
        value limits room formula others = .ok x) ∧
      ∀ name ∈ t.names, value limits room formula (without name bindings) =
        .error (.formula (.unknownVariable name (sortedNames (without name bindings)))) := by
  obtain ⟨t, ht⟩ := exists_parse_of_value h
  have hasks := asks_value room ht
  have hnumber := hasks.strict h
  refine ⟨t, ht, trial_of_value ht h, ?_, ?_⟩
  · intro others hsame
    rw [← h]
    refine (hasks.congr fun name hname => ?_).symm
    obtain ⟨y, hy⟩ := hnumber name hname
    exact numberOf_eq (hsame name hname) hy
  · intro name hname
    refine hasks.fails h ?_ ⟨name, hname, numberOf_without_self⟩
    intro key hkey
    by_cases heq : key = name
    · rw [heq]
      exact .inr numberOf_without_self
    · obtain ⟨y, hy⟩ := hnumber key hkey
      exact .inl (numberOf_eq (lookup?_without heq) hy)

/-- The value that a condition does not choose is asked for all the same. -/
theorem value_depends_on_unchosen :
    ∃ x, value .standard standardCalls (some "if(c,a,b)")
        [("a", .float 2.0), ("b", .float 3.0), ("c", .bool true)] = .ok x ∧
      value .standard standardCalls (some "if(c,a,b)") (without "b"
        [("a", .float 2.0), ("b", .float 3.0), ("c", .bool true)]) =
        .error (.formula (.unknownVariable "b" (sortedNames (without "b"
          [("a", .float 2.0), ("b", .float 3.0), ("c", .bool true)])))) := by
  have hvalue : (value .standard standardCalls (some "if(c,a,b)")
      [("a", .float 2.0), ("b", .float 3.0), ("c", .bool true)]).isOk = true := by decide +kernel
  have hused : (parse .standard (some "if(c,a,b)")).toOption.any
      (fun t => t.names.contains "b") = true := by decide +kernel
  cases hx : value .standard standardCalls (some "if(c,a,b)")
      [("a", .float 2.0), ("b", .float 3.0), ("c", .bool true)] with
  | error f => rw [hx] at hvalue; simp [Except.isOk, Except.toBool] at hvalue
  | ok x =>
    obtain ⟨t, ht, -, -, hmissing⟩ := value_depends_on_names hx
    rw [ht] at hused
    exact ⟨x, rfl, hmissing "b" (by simpa [Except.toOption] using hused)⟩

end

end Tariff.Formula
