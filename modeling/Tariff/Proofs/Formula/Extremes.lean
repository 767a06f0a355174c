import Mathlib.Data.List.Perm.Basic
import Mathlib.Data.List.Forall2
import Tariff.Proofs.Formula.Room
import Tariff.Proofs.Formula.Texts
import Tariff.Proofs.Number.Order

/-!
# The least and the greatest of several numbers

Of several numbers, the first one that no other one precedes is picked, from left to right. What is
not a number precedes nothing and is preceded by nothing, so it is kept where it comes first and
passed over everywhere else. Two orders of the same arguments have equal results exactly if both
begin with a number, or neither does.

## Main definitions

* `Tariff.Formula.SameNumber` — doubles that are equal as numbers.
* `Tariff.Formula.Extreme.IsPicked` — what one of several numbers is as the picked one.

## Main results

* `Tariff.Formula.Extreme.isPicked_eval` — the picked one of several numbers.
* `Tariff.Formula.Extreme.sameNumber_eval_iff` — when the order of the numbers does not matter.
* `Tariff.Formula.value_of_reordered` — formulas that differ in the order of the arguments.
-/

set_option autoImplicit false

namespace Tariff.Formula

open Tariff.Number Tariff.Text

/-- Doubles that are equal as numbers; all that are not a number are equal. -/
def SameNumber (x y : Float) : Prop :=
  (x == y) = true ∨ x.isNaN = true ∧ y.isNaN = true

/-- What is equal as a number is a number, or both are not. -/
lemma SameNumber.isNaN_eq {x y : Float} (h : SameNumber x y) : x.isNaN = y.isNaN := by
  rcases h with h | ⟨hx, hy⟩
  · obtain ⟨hx, hy⟩ := isNaN_eq_false_of_beq h
    rw [hx, hy]
  · rw [hx, hy]

/-- Results that are equal as numbers come out alike: as equal numbers, or as the same error. -/
lemma SameNumber.alike {x y : Float} (h : SameNumber x y) :
    Alike Eq (fun a b => (a == b) = true) (finiteResult (some x)) (finiteResult (some y)) := by
  rcases h with h | ⟨hx, hy⟩
  · obtain ⟨hx, hy⟩ := isNaN_eq_false_of_beq h
    have hinf := isInf_eq_of_beq h
    simp only [finiteResult, hx, hy, ← hinf]
    cases x.isInf with
    | true => exact .error rfl
    | false => exact .ok h
  · simp only [finiteResult, hx, hy]
    exact .error rfl

/-! ### Picking -/

namespace Extreme

variable {e : Extreme} {x y z w : Float} {xs ys zs : List Float}

/-- One of some doubles is picked of them: it is a number, and none takes its place. -/
structure IsPicked (e : Extreme) (z : Float) (zs : List Float) : Prop where
  /-- it is one of them -/
  mem : z ∈ zs
  /-- it is a number -/
  isNaN_eq : z.isNaN = false
  /-- none takes its place -/
  replaces_eq : ∀ w ∈ zs, e.replaces w z = false

/-- What takes the place of another one is a number, and so is the other one. -/
lemma isNaN_eq_false_of_replaces (h : e.replaces x y = true) :
    x.isNaN = false ∧ y.isNaN = false := by
  cases e with
  | least => exact isNaN_eq_false_of_lt (of_decide_eq_true h)
  | greatest => exact (isNaN_eq_false_of_lt (of_decide_eq_true h)).symm

/-- Of two numbers, one takes the place of the other one, or they are equal. -/
lemma beq_of_replaces_eq_false (hx : x.isNaN = false) (hy : y.isNaN = false)
    (hxy : e.replaces x y = false) (hyx : e.replaces y x = false) : (x == y) = true := by
  rw [beq_iff hx hy]
  cases e with
  | least =>
    have hle := (lt_iff hx hy).not.1 (of_decide_eq_false hxy)
    have hge := (lt_iff hy hx).not.1 (of_decide_eq_false hyx)
    exact le_antisymm (not_lt.1 hge) (not_lt.1 hle)
  | greatest =>
    have hge := (lt_iff hy hx).not.1 (of_decide_eq_false hxy)
    have hle := (lt_iff hx hy).not.1 (of_decide_eq_false hyx)
    exact le_antisymm (not_lt.1 hge) (not_lt.1 hle)

/-- What takes the place of a number takes that of whatever does not take its place. -/
lemma replaces_of_replaces (hy : y.isNaN = false) (hxz : e.replaces x z = true)
    (hxy : e.replaces x y = false) : e.replaces y z = true := by
  obtain ⟨hx, hz⟩ := isNaN_eq_false_of_replaces hxz
  cases e with
  | least =>
    have hle := not_lt.1 ((lt_iff hx hy).not.1 (of_decide_eq_false hxy))
    have hlt := (lt_iff hx hz).1 (of_decide_eq_true hxz)
    exact decide_eq_true ((lt_iff hy hz).2 (hle.trans_lt hlt))
  | greatest =>
    have hle := not_lt.1 ((lt_iff hy hx).not.1 (of_decide_eq_false hxy))
    have hlt := (lt_iff hz hx).1 (of_decide_eq_true hxz)
    exact decide_eq_true ((lt_iff hz hy).2 (hlt.trans_le hle))

/-- Of two doubles, at most one takes the place of the other one. -/
lemma replaces_asymm (h : e.replaces x y = true) : e.replaces y x = false := by
  obtain ⟨hx, hy⟩ := isNaN_eq_false_of_replaces h
  cases e with
  | least =>
    have hlt := (lt_iff hx hy).1 (of_decide_eq_true h)
    exact decide_eq_false ((lt_iff hy hx).not.2 hlt.asymm)
  | greatest =>
    have hlt := (lt_iff hy hx).1 (of_decide_eq_true h)
    exact decide_eq_false ((lt_iff hx hy).not.2 hlt.asymm)

/-- The picked one of some doubles is picked of them in any order. -/
lemma IsPicked.perm (h : e.IsPicked z xs) (hperm : xs.Perm ys) : e.IsPicked z ys :=
  ⟨hperm.mem_iff.1 h.mem, h.isNaN_eq, fun w hw => h.replaces_eq w (hperm.mem_iff.2 hw)⟩

/-- The picked one of some doubles is equal to every other one that is picked of them. -/
lemma IsPicked.beq (h : e.IsPicked z xs) (hw : e.IsPicked w xs) : (z == w) = true :=
  beq_of_replaces_eq_false h.isNaN_eq hw.isNaN_eq (hw.replaces_eq z h.mem) (h.replaces_eq w hw.mem)

/-- A double that does not take the place of one of some doubles does not matter beside them. -/
lemma IsPicked.cons (h : e.IsPicked z xs) (hy : y ∈ xs) (hnan : y.isNaN = false)
    (hxy : e.replaces x y = false) : e.IsPicked z (x :: xs) := by
  refine ⟨List.mem_cons_of_mem x h.mem, h.isNaN_eq, List.forall_mem_cons.2 ⟨?_, h.replaces_eq⟩⟩
  by_contra hxz
  have hyz := replaces_of_replaces hnan (Bool.eq_true_of_not_eq_false hxz) hxy
  rw [h.replaces_eq y hy] at hyz
  contradiction

/-- The next double is kept, if it takes the place of the one that was picked before. -/
lemma eval_cons : e.eval x (y :: ys) = e.eval (if e.replaces y x then y else x) ys :=
  rfl

/-- What is not a number is kept where it comes first. -/
lemma eval_of_isNaN (hx : x.isNaN = true) : e.eval x xs = x := by
  induction xs with
  | nil => rfl
  | cons y ys ih =>
    have hkept : e.replaces y x = false := by
      by_contra h
      have hnum := (isNaN_eq_false_of_replaces (Bool.eq_true_of_not_eq_false h)).2
      rw [hx] at hnum
      contradiction
    rw [eval_cons, hkept]
    exact ih

/-- What is picked of several doubles of which the first one is a number.

**Proof sketch.** By induction on the others. The next one takes the place of the first one or not,
and the one of the two that stays is a number. What is picked of it and the rest is picked of all,
because the other one of the two does not take its place. -/
theorem isPicked_eval (hx : x.isNaN = false) : e.IsPicked (e.eval x xs) (x :: xs) := by
  induction xs generalizing x with
  | nil =>
    refine ⟨List.mem_singleton_self x, hx, List.forall_mem_singleton.2 ?_⟩
    by_contra h
    exact h (replaces_asymm (Bool.eq_true_of_not_eq_false h))
  | cons y ys ih =>
    rw [eval_cons]
    cases hyx : e.replaces y x with
    | false => exact ((ih hx).cons List.mem_cons_self hx hyx).perm (.swap x y ys)
    | true =>
      have hy := (isNaN_eq_false_of_replaces hyx).1
      exact (ih hy).cons List.mem_cons_self hy (replaces_asymm hyx)

/-- What is picked of several doubles is a number iff the first one of them is. -/
lemma isNaN_eval : (e.eval x xs).isNaN = x.isNaN := by
  cases hx : x.isNaN with
  | false => exact (isPicked_eval hx).isNaN_eq
  | true => rw [eval_of_isNaN hx, hx]

/-- Two orders of the same doubles have results that are equal as numbers iff both begin with a
number, or neither does. -/
theorem sameNumber_eval_iff (hperm : (x :: xs).Perm (y :: ys)) :
    SameNumber (e.eval x xs) (e.eval y ys) ↔ x.isNaN = y.isNaN := by
  constructor
  · intro h
    rw [← isNaN_eval (e := e), h.isNaN_eq, isNaN_eval]
  · intro h
    cases hy : y.isNaN with
    | false => exact .inl ((isPicked_eval (h.trans hy)).beq ((isPicked_eval hy).perm hperm.symm))
    | true => exact .inr ⟨isNaN_eval.trans (h.trans hy), isNaN_eval.trans hy⟩

end Extreme

/-! ### Arguments in another order -/

section

variable {limits : Limits} {room : Nat} {formula formula' : Option String} {bindings : Bindings}
  {e : Extreme} {t t' : Tree} {ts ts' : List Tree} {r : Option Float} {x : Float} {xs : List Float}

/-- A value is a number that is needed iff it is a number. -/
lemma needed_eq_ok_iff : needed r = .ok x ↔ r = some x := by
  cases r with
  | none => simp [needed]
  | some y => simp [needed]

/-- Several trees have values iff each of them has one. -/
lemma evalAll_eq_ok_iff : Tree.evalAll bindings room ts = .ok xs ↔
    List.Forall₂ (fun t x => t.eval bindings room = .ok (some x)) ts xs := by
  induction ts generalizing xs with
  | nil => simp [Tree.evalAll, eq_comm]
  | cons t ts ih =>
    simp only [Tree.evalAll, bind_eq_ok, needed_eq_ok_iff, List.forall₂_cons_left_iff, ih]
    constructor
    · rintro ⟨_, hx, x, rfl, others, hothers, h⟩
      exact ⟨x, others, hx, hothers, (Except.ok.inj h).symm⟩
    · rintro ⟨x, others, hx, hothers, rfl⟩
      exact ⟨some x, hx, x, rfl, others, hothers, rfl⟩

/-- What is picked of several trees is what is picked of their values, if there is room for them. -/
lemma eval_extreme_eq_ok_iff : (Tree.extreme e t ts).eval bindings room = .ok r ↔
    callsToArgument ≤ room ∧ ∃ x xs,
      List.Forall₂ (fun t x => t.eval bindings (room - callsToArgument) = .ok (some x))
        (t :: ts) (x :: xs) ∧ some (e.eval x xs) = r := by
  simp only [Tree.eval, bind_eq_ok, inside_eq_ok_iff, needed_eq_ok_iff, List.forall₂_cons,
    evalAll_eq_ok_iff]
  constructor
  · rintro ⟨_, ⟨hroom, rfl⟩, _, hx, x, rfl, xs, hxs, h⟩
    exact ⟨hroom, x, xs, ⟨hx, hxs⟩, Except.ok.inj h⟩
  · rintro ⟨hroom, x, xs, ⟨hx, hxs⟩, rfl⟩
    exact ⟨_, ⟨hroom, rfl⟩, some x, hx, x, rfl, xs, hxs, rfl⟩

/-- An argument that has a value inside of the nested calls has it outside of them, too. -/
lemma eval_of_eval_inside (h : t.eval bindings (room - callsToArgument) = .ok r) :
    t.eval bindings room = .ok r :=
  (takesRoom_eval bindings t).mono h (Nat.sub_le _ _)

/-- Another order of the same arguments has values iff the order at hand has. -/
lemma exists_values_of_perm (hperm : (t :: ts).Perm (t' :: ts'))
    (h : List.Forall₂ (fun t x => t.eval bindings room = .ok (some x)) (t :: ts) (x :: xs)) :
    ∃ x' xs',
      List.Forall₂ (fun t x => t.eval bindings room = .ok (some x)) (t' :: ts') (x' :: xs') ∧
        (x :: xs).Perm (x' :: xs') := by
  obtain ⟨values, hvalues, hsame⟩ := List.perm_comp_forall₂ hperm.symm h
  obtain ⟨x', xs', hx', hxs', rfl⟩ := List.forall₂_cons_left_iff.1 hvalues
  exact ⟨x', xs', hvalues, hsame.symm⟩

/-- **The order of the arguments.** Two formulas pick the least or the greatest of the same
arguments in two orders. Then neither has a value, or the first arguments and the two formulas have
results, and each of these is a number iff the first argument is. The two results are equal as
numbers, what is not a number counting as equal, iff both first arguments are numbers, or neither
is; then the formulas have equal values or the same error.

**Proof sketch.** The values of the arguments are the same up to their order, by
`exists_values_of_perm`, so `Extreme.sameNumber_eval_iff` applies to them. Results that are equal as
numbers are finite together, by `SameNumber.alike`. -/
theorem value_of_reordered (hparse : parse limits formula = .ok (.extreme e t ts))
    (hparse' : parse limits formula' = .ok (.extreme e t' ts'))
    (hperm : (t :: ts).Perm (t' :: ts')) :
    (∃ f f', value limits room formula bindings = .error f ∧
      value limits room formula' bindings = .error f' ∧
      (Tree.extreme e t ts).eval bindings room = .error f ∧
      (Tree.extreme e t' ts').eval bindings room = .error f') ∨
    ∃ x x' z z', t.eval bindings room = .ok (some x) ∧ t'.eval bindings room = .ok (some x') ∧
      (Tree.extreme e t ts).eval bindings room = .ok (some z) ∧ z.isNaN = x.isNaN ∧
      (Tree.extreme e t' ts').eval bindings room = .ok (some z') ∧ z'.isNaN = x'.isNaN ∧
      (SameNumber z z' ↔ x.isNaN = x'.isNaN) ∧
      (x.isNaN = x'.isNaN → Alike Eq (fun a b => (a == b) = true)
        (value limits room formula bindings) (value limits room formula' bindings)) := by
  rw [value_of_parse hparse, value_of_parse hparse']
  cases h : (Tree.extreme e t ts).eval bindings room with
  | error f =>
    cases h' : (Tree.extreme e t' ts').eval bindings room with
    | error f' => exact .inl ⟨f, f', rfl, rfl, rfl, rfl⟩
    | ok r =>
      obtain ⟨hroom, x', xs', hvalues', -⟩ := eval_extreme_eq_ok_iff.1 h'
      obtain ⟨x, xs, hvalues, -⟩ := exists_values_of_perm hperm.symm hvalues'
      rw [eval_extreme_eq_ok_iff.2 ⟨hroom, x, xs, hvalues, rfl⟩] at h
      contradiction
  | ok r =>
    obtain ⟨hroom, x, xs, hvalues, rfl⟩ := eval_extreme_eq_ok_iff.1 h
    obtain ⟨x', xs', hvalues', hsame⟩ := exists_values_of_perm hperm hvalues
    have h' := eval_extreme_eq_ok_iff.2 ⟨hroom, x', xs', hvalues', Eq.refl (some (e.eval x' xs'))⟩
    rw [h']
    have hx := eval_of_eval_inside (List.forall₂_cons.1 hvalues).1
    have hx' := eval_of_eval_inside (List.forall₂_cons.1 hvalues').1
    have hiff := Extreme.sameNumber_eval_iff (e := e) hsame
    exact .inr ⟨x, x', _, _, hx, hx', rfl, Extreme.isNaN_eval, rfl, Extreme.isNaN_eval, hiff,
      fun hnan => (hiff.2 hnan).alike⟩

/-- The function that picks the least or the greatest of its arguments. -/
def Extreme.function : Extreme → Function
  | least => .min
  | greatest => .max

/-- Formulas that are read alone are read as the arguments of a call that picks one of them. -/
lemma parse_callText_extreme {depth : Int} {first : String × Tree} {others : List (String × Tree)}
    (h : ∀ part ∈ first :: others, parse ⟨depth, none⟩ (some part.1) = .ok part.2) :
    parse ⟨depth + 1, none⟩ (some (callText e.function.name ((first :: others).map (·.1)))) =
      .ok (.extreme e first.2 (others.map (·.2))) := by
  have hname : IsName e.function.name := by
    cases e <;> exact ⟨by decide, List.all_eq_true.1 (by decide)⟩
  have hfunction : Function.ofName? (lowerAscii e.function.name) = some e.function := by
    cases e <;> decide
  have hcall : e.function.call? ((first :: others).map (·.2)) =
      some (.extreme e first.2 (others.map (·.2))) := by
    cases e <;> rfl
  exact parse_callText hname hfunction h hcall

/-- A formula that has a value stands for a tree whose value is a number. -/
lemma isNaN_eq_false_of_value (hparse : parse limits formula = .ok t)
    (heval : t.eval bindings room = .ok (some x))
    (h : (value limits room formula bindings).toOption.isSome) : x.isNaN = false := by
  obtain ⟨y, hy⟩ := Option.isSome_iff_exists.1 h
  rw [toOption_eq_some_iff, value_of_parse hparse, heval] at hy
  change finiteResult (some x) = .ok y at hy
  cases hx : x.isNaN with
  | false => rfl
  | true =>
    rw [finiteResult_of_isNaN hx] at hy
    contradiction

/-- A quotient that is not a number is passed over where it does not come first. -/
theorem value_of_reordered_passedOver :
    ∃ t u v z z', parse ⟨2, none⟩ (some "min(5, 0/0, 7)") = .ok (.extreme .least t [u, v]) ∧
      parse ⟨2, none⟩ (some "min(7, 5, 0/0)") = .ok (.extreme .least v [t, u]) ∧
      (Tree.extreme .least t [u, v]).eval [] standardCalls = .ok (some z) ∧
      (Tree.extreme .least v [t, u]).eval [] standardCalls = .ok (some z') ∧ SameNumber z z' := by
  have h₅ : (parse ⟨1, none⟩ (some "5")).toOption.isSome = true := by decide +kernel
  have h₀ : (parse ⟨1, none⟩ (some "0/0")).toOption.isSome = true := by decide +kernel
  have h₇ : (parse ⟨1, none⟩ (some "7")).toOption.isSome = true := by decide +kernel
  obtain ⟨t, ht⟩ := Option.isSome_iff_exists.1 h₅
  obtain ⟨u, hu⟩ := Option.isSome_iff_exists.1 h₀
  obtain ⟨v, hv⟩ := Option.isSome_iff_exists.1 h₇
  rw [toOption_eq_some_iff] at ht hu hv
  have hparse := @parse_callText_extreme .least 1 ("5", t) [("0/0", u), ("7", v)]
    (by simp [ht, hu, hv])
  have hparse' := @parse_callText_extreme .least 1 ("7", v) [("5", t), ("0/0", u)]
    (by simp [ht, hu, hv])
  have hvalue : (value ⟨1 + 1, none⟩ standardCalls (some (callText Extreme.least.function.name
    ["5", "0/0", "7"])) []).toOption.isSome = true := by decide +kernel
  have hvalue' : (value ⟨1 + 1, none⟩ standardCalls (some (callText Extreme.least.function.name
    ["7", "5", "0/0"])) []).toOption.isSome = true := by decide +kernel
  have hperm : [t, u, v].Perm [v, t, u] := @List.perm_append_comm _ [t, u] [v]
  have h := @value_of_reordered _ standardCalls _ _ [] _ _ _ _ _ hparse hparse' hperm
  rcases h with ⟨f, -, hf, -⟩ | ⟨x, x', z, z', -, -, hz, hx, hz', hx', hiff, -⟩
  · have hnone := congrArg Except.toOption hf
    rw [Option.isSome_iff_ne_none] at hvalue
    exact absurd hnone hvalue
  · have hnum := isNaN_eq_false_of_value hparse hz hvalue
    have hnum' := isNaN_eq_false_of_value hparse' hz' hvalue'
    exact ⟨t, u, v, z, z', hparse, hparse', hz, hz', hiff.2 (by rw [← hx, ← hx', hnum, hnum'])⟩

/-- The least of a number and a quotient that is none is the number where the number comes first. In
the other order it is none, and the formula fails. -/
theorem not_sameNumber_of_reordered :
    ∃ t u z z', parse ⟨2, none⟩ (some "min(5, 0/0)") = .ok (.extreme .least t [u]) ∧
      parse ⟨2, none⟩ (some "min(0/0, 5)") = .ok (.extreme .least u [t]) ∧
      (Tree.extreme .least t [u]).eval [] standardCalls = .ok (some z) ∧
      (Tree.extreme .least u [t]).eval [] standardCalls = .ok (some z') ∧ ¬ SameNumber z z' ∧
      value ⟨2, none⟩ standardCalls (some "min(5, 0/0)") [] = .ok 5.0 ∧
      value ⟨2, none⟩ standardCalls (some "min(0/0, 5)") [] =
        .error (.formula .undefinedResult) := by
  have h₅ : ((parse ⟨1, none⟩ (some "5")).toOption.bind fun t =>
      (t.eval [] (standardCalls - callsToArgument)).toOption) = some (some 5.0) := by
    decide +kernel
  have h₀ : ((parse ⟨1, none⟩ (some "0/0")).toOption.bind fun t =>
      (t.eval [] (standardCalls - callsToArgument)).toOption) = some (some (0.0 / 0.0)) := by
    decide +kernel
  simp only [Option.bind_eq_some_iff, toOption_eq_some_iff] at h₅ h₀
  obtain ⟨t, ht, hx⟩ := h₅
  obtain ⟨u, hu, hy⟩ := h₀
  have hparse := @parse_callText_extreme .least 1 ("5", t) [("0/0", u)] (by simp [ht, hu])
  have hparse' := @parse_callText_extreme .least 1 ("0/0", u) [("5", t)] (by simp [ht, hu])
  have hz : (Tree.extreme .least t [u]).eval [] standardCalls =
      .ok (some (Extreme.least.eval 5.0 [0.0 / 0.0])) :=
    eval_extreme_eq_ok_iff.2 ⟨by decide, _, _, by simp [hx, hy], rfl⟩
  have hz' : (Tree.extreme .least u [t]).eval [] standardCalls =
      .ok (some (Extreme.least.eval (0.0 / 0.0) [5.0])) :=
    eval_extreme_eq_ok_iff.2 ⟨by decide, _, _, by simp [hx, hy], rfl⟩
  have hnan : (0.0 / 0.0 : Float).isNaN = true := by decide +kernel
  have hnum : (5.0 : Float).isNaN = false := by decide +kernel
  have hvalue : (value ⟨1 + 1, none⟩ standardCalls
    (some (callText Extreme.least.function.name ["5", "0/0"])) []).toOption = some 5.0 := by
      decide +kernel
  refine ⟨t, u, _, _, hparse, hparse', hz, hz', ?_, toOption_eq_some_iff.1 hvalue, ?_⟩
  · rw [Extreme.sameNumber_eval_iff (List.Perm.swap _ _ _), hnan, hnum]
    exact Bool.noConfusion
  · have herror := @value_of_parse _ standardCalls _ [] (.extreme .least u [t]) hparse'
    rw [hz', Extreme.eval_of_isNaN hnan] at herror
    exact herror.trans (finiteResult_of_isNaN hnan)

end

end Tariff.Formula
