import Tariff.Proofs.Formula.Evaluation

/-!
# The room that an evaluation takes

The evaluation of a tree goes down by nested calls, as deep as `Tree.calls` says. If there is room
for them, it comes out the same whatever the room is, and never for want of room. If there is not,
it fails: for want of room, unless it meets on its way what makes it fail with any room.

## Main definitions

* `Tariff.Formula.TakesRoom` — a computation takes so much room.

## Main results

* `Tariff.Formula.takesRoom_eval` — the evaluation of a tree takes room for its calls.
* `Tariff.Formula.takesRoom_value` — so does the value of a formula.

## Design

As with the names that a computation asks for, the property is kept by putting computations one
after the other, and the induction over the trees only follows how the evaluation of each form is
put together.
-/

set_option autoImplicit false

namespace Tariff.Formula

/-! ### Computations that take room -/

/-- A computation for which there is some room takes so much of it. -/
structure TakesRoom {α : Type} (calls : Nat) (run : Nat → Except Failure α) : Prop where
  /-- with enough room, how much there is makes no difference -/
  enough : ∀ {room room' : Nat}, calls ≤ room → calls ≤ room' → run room = run room'
  /-- with enough room, the computation does not fail for want of it -/
  unhindered : ∀ {room : Nat}, calls ≤ room → run room ≠ .error (.fault .callsExhausted)
  /-- with too little room it fails for want of it, or as it does with enough room -/
  short : ∀ {room : Nat}, room < calls → run room = .error (.fault .callsExhausted) ∨
    ∃ f, run room = .error f ∧ ∀ room', calls ≤ room' → run room' = .error f

section

variable {α β : Type} {calls others room room' : Nat} {run : Nat → Except Failure α} {a : α}

namespace TakesRoom

/-- A result shows that there was enough room. -/
lemma le_of_eq_ok (h : TakesRoom calls run) (ha : run room = .ok a) : calls ≤ room := by
  refine Nat.le_of_not_lt fun hlt => ?_
  rcases h.short hlt with hshort | ⟨f, hf, -⟩
  · cases ha.symm.trans hshort
  · cases ha.symm.trans hf

/-- With more room there is the same result. -/
lemma mono (h : TakesRoom calls run) (ha : run room = .ok a) (hle : room ≤ room') :
    run room' = .ok a := by
  have henough := h.le_of_eq_ok ha
  rw [← ha, h.enough henough (Nat.le_trans henough hle)]

/-- If there is a result with enough room, there is a fault with too little. -/
lemma eq_exhausted (h : TakesRoom calls run) (ha : run room = .ok a) (hlt : room' < calls) :
    run room' = .error (.fault .callsExhausted) := by
  rcases h.short hlt with hshort | ⟨f, -, hf⟩
  · exact hshort
  · cases ha.symm.trans (hf room (h.le_of_eq_ok ha))

/-- What fails for want of room has too little. -/
lemma lt_of_eq_exhausted (h : TakesRoom calls run)
    (hfault : run room = .error (.fault .callsExhausted)) : room < calls :=
  Nat.lt_of_not_le fun hle => h.unhindered hle hfault

/-- An outcome that is known takes no room. -/
lemma known {r : Except Failure α} (hr : r ≠ .error (.fault .callsExhausted)) :
    TakesRoom 0 fun _ => r where
  enough _ _ := rfl
  unhindered _ := hr
  short h := absurd h (Nat.not_lt_zero _)

/-- A result that is known takes no room. -/
lemma result (a : α) : TakesRoom 0 fun _ => (.ok a : Except Failure α) :=
  known (by simp)

/-- A computation that goes on after another one takes the greater room of both. -/
lemma bind {next : α → Nat → Except Failure β} (hrun : TakesRoom calls run)
    (hnext : ∀ a, TakesRoom others (next a)) :
    TakesRoom (max calls others) fun room => run room >>= fun a => next a room where
  enough := by
    intro room room' h h'
    obtain ⟨hfirst, hrest⟩ := Nat.max_le.1 h
    obtain ⟨hfirst', hrest'⟩ := Nat.max_le.1 h'
    rw [hrun.enough hfirst hfirst']
    cases run room' with
    | error f => rfl
    | ok a => exact (hnext a).enough hrest hrest'
  unhindered := by
    intro room h hfault
    obtain ⟨hfirst, hrest⟩ := Nat.max_le.1 h
    rcases bind_eq_error.1 hfault with hfault | ⟨a, -, hfault⟩
    · exact hrun.unhindered hfirst hfault
    · exact (hnext a).unhindered hrest hfault
  short := by
    intro room hlt
    by_cases hle : calls ≤ room
    · -- the first computation has enough room, so the want shows in the second one
      have hsame : ∀ room', max calls others ≤ room' → run room' = run room := fun room' h' =>
        hrun.enough (Nat.max_le.1 h').1 hle
      cases hr : run room with
      | error f =>
        refine .inr ⟨f, rfl, fun room' h' => ?_⟩
        rw [hsame room' h', hr]
        rfl
      | ok a =>
        rcases (hnext a).short (by omega : room < others) with hshort | ⟨f, hf, hall⟩
        · exact .inl hshort
        · refine .inr ⟨f, hf, fun room' h' => ?_⟩
          rw [hsame room' h', hr]
          exact hall room' (Nat.max_le.1 h').2
    · rcases hrun.short (Nat.lt_of_not_le hle) with hshort | ⟨f, hf, hall⟩
      · exact .inl (bind_eq_error.2 (.inl hshort))
      · refine .inr ⟨f, bind_eq_error.2 (.inl hf), fun room' h' => ?_⟩
        exact bind_eq_error.2 (.inl (hall room' (Nat.max_le.1 h').1))

/-- What is done with the result alone takes no more room. -/
lemma bind_known {next : α → Except Failure β} (hrun : TakesRoom calls run)
    (hnext : ∀ a, next a ≠ .error (.fault .callsExhausted)) :
    TakesRoom calls fun room => run room >>= next := by
  have h := hrun.bind fun a => known (hnext a)
  rwa [Nat.max_zero] at h

/-- An operand that is needed as a number takes the same room. -/
lemma bind_needed {run : Nat → Except Failure (Option Float)}
    {next : Float → Nat → Except Failure β} (hrun : TakesRoom calls run)
    (hnext : ∀ x, TakesRoom others (next x)) :
    TakesRoom (max calls others) fun room =>
      run room >>= fun v => needed v >>= fun x => next x room :=
  hrun.bind fun v => by
    have hneeded : needed v ≠ .error (.fault .callsExhausted) := by
      cases v <;> simp [needed]
    have h := (known hneeded).bind hnext
    rwa [Nat.zero_max] at h

/-- What lies inside of nested calls takes room for the calls, too. -/
lemma inside {run : Nat → Except Failure α} (hrun : TakesRoom others run) :
    TakesRoom (calls + others) fun room => Formula.inside calls room >>= run where
  enough := by
    intro room room' h h'
    rw [inside_eq_ok_iff.2 ⟨by omega, rfl⟩, inside_eq_ok_iff.2 ⟨by omega, rfl⟩]
    exact hrun.enough (by omega) (by omega)
  unhindered := by
    intro room h
    rw [inside_eq_ok_iff.2 ⟨by omega, rfl⟩]
    exact hrun.unhindered (by omega)
  short := by
    intro room hlt
    by_cases hle : calls ≤ room
    · rw [inside_eq_ok_iff.2 ⟨hle, rfl⟩]
      rcases hrun.short (by omega : room - calls < others) with hshort | ⟨f, hf, hall⟩
      · exact .inl hshort
      · refine .inr ⟨f, hf, fun room' h' => ?_⟩
        rw [inside_eq_ok_iff.2 ⟨by omega, rfl⟩]
        exact hall _ (by omega)
    · exact .inl (bind_eq_error.2 (.inl (inside_eq_error_iff.2 ⟨Nat.lt_of_not_le hle, rfl⟩)))

end TakesRoom

end

/-! ### Trees -/

/-- A name may give no number, but not for want of room. -/
lemma numberOf_ne_exhausted {bindings : Bindings} {name : String} :
    numberOf bindings name ≠ .error (.fault .callsExhausted) := by
  unfold numberOf
  split <;> try split
  all_goals simp

/-- Rounding to a number of digits may fail, but not for want of room. -/
lemma roundDigits_ne_exhausted {x digits : Float} :
    roundDigits x digits ≠ .error (.fault .callsExhausted) := by
  simp only [roundDigits]
  split
  · simp
  · split <;> simp

/-- A result may be no finite number, but not for want of room. -/
lemma finiteResult_ne_exhausted {r : Option Float} :
    finiteResult r ≠ .error (.fault .callsExhausted) := by
  intro h
  obtain ⟨_, hcause, -⟩ := finiteResult_eq_error h
  cases hcause

/-- A mapped outcome is no more for want of room than the outcome. -/
lemma map_ne_exhausted {α β : Type} {r : Except Failure α} {g : α → β}
    (h : r ≠ .error (.fault .callsExhausted)) : r.map g ≠ .error (.fault .callsExhausted) :=
  fun hmap => h (map_eq_error.1 hmap)

mutual

/-- **The evaluation of a tree takes room for its calls.** -/
theorem takesRoom_eval (bindings : Bindings) :
    ∀ t : Tree, TakesRoom t.calls fun room => t.eval bindings room
  | .number x => .result (some x)
  | .null => .result none
  | .named name => by
    simpa only [Tree.eval, Tree.calls, Nat.add_zero] using
      TakesRoom.inside (.known (map_ne_exhausted numberOf_ne_exhausted))
  | .signed sign t => by
    simpa only [Tree.eval, Tree.calls, Nat.max_zero] using
      TakesRoom.inside ((takesRoom_eval bindings t).bind_needed fun x =>
        .result (some (sign.eval x)))
  | .mapped f t => by
    simpa only [Tree.eval, Tree.calls, Nat.max_zero] using
      TakesRoom.inside ((takesRoom_eval bindings t).bind_needed fun x => .result (some (f.eval x)))
  | .rounded t => by
    simpa only [Tree.eval, Tree.calls, Nat.max_zero] using
      TakesRoom.inside ((takesRoom_eval bindings t).bind_needed fun x =>
        .result (some (Money.roundWith 1.0 x)))
  | .binary op l r => by
    simpa only [Tree.eval, Tree.calls, Nat.max_zero] using
      TakesRoom.inside ((takesRoom_eval bindings l).bind_needed fun x =>
        (takesRoom_eval bindings r).bind_needed fun y => .result (some (op.eval x y)))
  | .power b e => by
    simpa only [Tree.eval, Tree.calls, Nat.max_zero] using
      TakesRoom.inside ((takesRoom_eval bindings b).bind_needed fun x =>
        (takesRoom_eval bindings e).bind_needed fun y => .result (some (Number.power x y)))
  | .roundedTo t digits => by
    simpa only [Tree.eval, Tree.calls, Nat.max_zero] using
      TakesRoom.inside ((takesRoom_eval bindings t).bind_needed fun x =>
        (takesRoom_eval bindings digits).bind_needed fun n =>
          .known (map_ne_exhausted roundDigits_ne_exhausted))
  | .choice c a b => by
    simpa only [Tree.eval, Tree.calls, Nat.max_zero] using
      TakesRoom.inside ((takesRoom_eval bindings c).bind fun condition =>
        (takesRoom_eval bindings a).bind fun whenTrue =>
          (takesRoom_eval bindings b).bind fun whenFalse =>
            .result (if holds condition then whenTrue else whenFalse))
  | .extreme e t ts => by
    simpa only [Tree.eval, Tree.calls, Nat.max_zero] using
      TakesRoom.inside ((takesRoom_eval bindings t).bind_needed fun x =>
        (takesRoom_evalAll bindings ts).bind fun xs => .result (some (e.eval x xs)))

/-- The evaluation of several trees takes room for their calls. -/
theorem takesRoom_evalAll (bindings : Bindings) :
    ∀ ts : List Tree, TakesRoom (Tree.callsIn ts) fun room => Tree.evalAll bindings room ts
  | [] => .result []
  | t :: ts => by
    simpa only [Tree.evalAll, Tree.callsIn, Nat.max_zero] using
      (takesRoom_eval bindings t).bind_needed fun x =>
        (takesRoom_evalAll bindings ts).bind fun xs => .result (x :: xs)

end

/-! ### Formulas -/

/-- **The value of a formula takes room for the calls of its tree.** -/
theorem takesRoom_value {limits : Limits} {formula : Option String} {t : Tree} (bindings : Bindings)
    (h : parse limits formula = .ok t) :
    TakesRoom t.calls fun room => value limits room formula bindings := by
  simp only [value_of_parse h]
  exact (takesRoom_eval bindings t).bind_known fun _ => finiteResult_ne_exhausted

end Tariff.Formula
