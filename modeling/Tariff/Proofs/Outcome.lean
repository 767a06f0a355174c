import Mathlib.Tactic.Lemma
import Tariff.Fault

/-!
# Outcomes of computations that may fail

A computation in steps has a value iff each of its steps has one, and an error iff its first
failing step has it. Two computations in steps come out alike if their steps do.

## Main definitions

* `Tariff.Alike` — two computations have related values or related errors.

## Main results

* `Tariff.bind_eq_ok`, `Tariff.bind_eq_error` — a computation in two steps.
* `Tariff.map_eq_ok`, `Tariff.map_eq_error` — a step that cannot fail.
* `Tariff.mapError_eq_ok`, `Tariff.mapError_eq_error` — a change of errors.
* `Tariff.toOption_eq_some_iff` — a value without the errors.
* `Tariff.mapM_eq_ok_iff`, `Tariff.exists_of_mem_mapM` — a step for each element of a list.
* `Tariff.exists_first_cons` — the first element of a list at which a computation ends.
* `Tariff.nest_eq_ok_iff`, `Tariff.nest_eq_error_iff` — the room inside of nested calls.
* `Tariff.nest_bind_eq_error_iff` — a computation inside of nested calls.
* `Tariff.Alike.bind` — two computations in steps that come out alike.
-/

set_option autoImplicit false

namespace Tariff

variable {ε ε' α β : Type}

/-- Two steps have a value iff the first one has, and then the second one. -/
lemma bind_eq_ok {x : Except ε α} {f : α → Except ε β} {b : β} :
    (x >>= f) = .ok b ↔ ∃ a, x = .ok a ∧ f a = .ok b := by
  cases x with
  | error e => simp [bind, Except.bind]
  | ok a => simp [bind, Except.bind]

/-- Two steps have an error iff the first one has, or else the second one. -/
lemma bind_eq_error {x : Except ε α} {f : α → Except ε β} {e : ε} :
    (x >>= f) = .error e ↔ x = .error e ∨ ∃ a, x = .ok a ∧ f a = .error e := by
  cases x with
  | error e' => simp [bind, Except.bind]
  | ok a => simp [bind, Except.bind]

/-- A mapped computation has a value iff the computation has. -/
lemma map_eq_ok {x : Except ε α} {f : α → β} {b : β} :
    x.map f = .ok b ↔ ∃ a, x = .ok a ∧ f a = b := by
  cases x <;> simp [Except.map]

/-- A mapped computation has the errors of the computation. -/
lemma map_eq_error {x : Except ε α} {f : α → β} {e : ε} :
    x.map f = .error e ↔ x = .error e := by
  cases x <;> simp [Except.map]

/-- A change of errors leaves the values. -/
lemma mapError_eq_ok {x : Except ε α} {f : ε → ε'} {a : α} :
    x.mapError f = .ok a ↔ x = .ok a := by
  cases x with
  | error e => exact iff_of_false nofun nofun
  | ok a' => constructor <;> (intro h; cases h; rfl)

/-- A change of errors changes the errors only. -/
lemma mapError_eq_error {x : Except ε α} {f : ε → ε'} {e : ε'} :
    x.mapError f = .error e ↔ ∃ e', x = .error e' ∧ f e' = e := by
  cases x with
  | error e' =>
    constructor
    · intro h
      cases h
      exact ⟨e', rfl, rfl⟩
    · rintro ⟨_, h, rfl⟩
      cases h
      rfl
  | ok a => exact iff_of_false nofun nofun

/-- A value is what is left of a computation without its errors. -/
lemma toOption_eq_some_iff {x : Except ε α} {a : α} : x.toOption = some a ↔ x = .ok a := by
  cases x <;> simp [Except.toOption]

/-- A computation with a step for each element of a list has a value iff each step has. -/
lemma mapM_eq_ok_iff {f : α → Except ε β} {g : α → β} {as : List α} {bs : List β}
    (hg : ∀ a b, f a = .ok b → g a = b) :
    as.mapM f = .ok bs ↔ (∀ a ∈ as, ∃ b, f a = .ok b) ∧ bs = as.map g := by
  induction as generalizing bs with
  | nil => simp [pure, Except.pure, eq_comm]
  | cons a as ih =>
    rw [List.mapM_cons, bind_eq_ok, List.forall_mem_cons, List.map_cons]
    constructor
    · rintro ⟨b, hb, h⟩
      obtain ⟨others, hothers, h⟩ := bind_eq_ok.1 h
      obtain ⟨hall, rfl⟩ := ih.1 hothers
      obtain rfl := Except.ok.inj h
      exact ⟨⟨⟨b, hb⟩, hall⟩, by rw [hg a b hb]⟩
    · rintro ⟨⟨⟨b, hb⟩, hall⟩, rfl⟩
      refine ⟨b, hb, bind_eq_ok.2 ⟨_, ih.2 ⟨hall, rfl⟩, ?_⟩⟩
      rw [hg a b hb]
      rfl

/-- What a computation with a step for each element of a list results in comes from the steps. -/
lemma exists_of_mem_mapM {f : α → Except ε β} {as : List α} {bs : List β} {b : β}
    (h : as.mapM f = .ok bs) (hb : b ∈ bs) : ∃ a ∈ as, f a = .ok b := by
  induction as generalizing bs with
  | nil =>
    obtain rfl := Except.ok.inj h
    cases hb
  | cons a as ih =>
    rw [List.mapM_cons] at h
    obtain ⟨first, hfirst, h⟩ := bind_eq_ok.1 h
    obtain ⟨others, hothers, h⟩ := bind_eq_ok.1 h
    obtain rfl := Except.ok.inj h
    rcases List.mem_cons.1 hb with rfl | hb
    · exact ⟨a, List.mem_cons_self, hfirst⟩
    · obtain ⟨a', ha', hstep⟩ := ih hothers hb
      exact ⟨a', List.mem_cons_of_mem a ha', hstep⟩

/-- The first element with one property, after elements with another, is the head of a list or is in
its tail. -/
lemma exists_first_cons {p q : α → Prop} {a : α} {as : List α} :
    (∃ before b after, a :: as = before ++ b :: after ∧ (∀ c ∈ before, p c) ∧ q b) ↔
      q a ∨ p a ∧ ∃ before b after, as = before ++ b :: after ∧ (∀ c ∈ before, p c) ∧ q b := by
  constructor
  · rintro ⟨before, b, after, hsplit, hbefore, hb⟩
    cases before with
    | nil =>
      obtain ⟨rfl, -⟩ := List.cons.inj hsplit
      exact .inl hb
    | cons c before =>
      obtain ⟨rfl, rfl⟩ := List.cons.inj hsplit
      obtain ⟨hc, hbefore⟩ := List.forall_mem_cons.1 hbefore
      exact .inr ⟨hc, before, b, after, rfl, hbefore, hb⟩
  · rintro (ha | ⟨ha, before, b, after, rfl, hbefore, hb⟩)
    · exact ⟨[], a, as, rfl, by simp, ha⟩
    · exact ⟨a :: before, b, after, rfl, List.forall_mem_cons.2 ⟨ha, hbefore⟩, hb⟩

/-! ### Room for calls -/

section Nest

variable {calls room inner : Nat} {cause : Fault}

/-- There is room inside of nested calls if there is room for them. -/
lemma nest_eq_ok_iff : nest calls room = .ok inner ↔ calls ≤ room ∧ inner = room - calls := by
  rw [nest]
  split <;> simp [*, eq_comm]

/-- There is no room for calls that are nested too deeply. -/
lemma nest_eq_error_iff :
    nest calls room = .error cause ↔ room < calls ∧ cause = .callsExhausted := by
  rw [nest]
  by_cases h : calls ≤ room
  · simp [h, Nat.not_lt.2 h]
  · simp [h, Nat.lt_of_not_le h, eq_comm]

/-- A computation inside of nested calls fails because there is no room for them, or by itself. -/
lemma nest_bind_eq_error_iff {next : Nat → Except Fault β} :
    (nest calls room >>= next) = .error cause ↔ room < calls ∧ cause = .callsExhausted ∨
      calls ≤ room ∧ next (room - calls) = .error cause := by
  simp only [bind_eq_error, nest_eq_error_iff, nest_eq_ok_iff, and_assoc, exists_and_left,
    exists_eq_left]

end Nest

/-! ### Two computations -/

section Alike

variable {α' β' : Type} {E E' : ε → ε' → Prop} {R : α → α' → Prop} {S : β → β' → Prop}
  {x : Except ε α} {y : Except ε' α'}

/-- Two computations come out alike: their values are related by `R`, or their errors by `E`. -/
inductive Alike (E : ε → ε' → Prop) (R : α → α' → Prop) : Except ε α → Except ε' α' → Prop where
  /-- both have a value -/
  | ok {a : α} {a' : α'} : R a a' → Alike E R (.ok a) (.ok a')
  /-- both have an error -/
  | error {e : ε} {e' : ε'} : E e e' → Alike E R (.error e) (.error e')

namespace Alike

/-- Errors that are related more closely are related. -/
lemma mono (h : Alike E R x y) (hE : ∀ e e', E e e' → E' e e') : Alike E' R x y := by
  cases h with
  | ok h => exact .ok h
  | error h => exact .error (hE _ _ h)

/-- Computations in two steps come out alike if the first steps do, and the second steps after
them. -/
lemma bind {f : α → Except ε β} {g : α' → Except ε' β'} (h : Alike E R x y)
    (hfg : ∀ a a', R a a' → Alike E S (f a) (g a')) : Alike E S (x >>= f) (y >>= g) := by
  cases h with
  | ok h => exact hfg _ _ h
  | error h => exact .error h

/-- Steps that cannot fail keep computations alike if they keep the values related. -/
lemma map {f : α → β} {g : α' → β'} (h : Alike E R x y) (hfg : ∀ a a', R a a' → S (f a) (g a')) :
    Alike E S (x.map f) (y.map g) := by
  cases h with
  | ok h => exact .ok (hfg _ _ h)
  | error h => exact .error h

/-- What comes out like a middle computation that comes out like a third one comes out like that. -/
lemma trans {ε'' α'' : Type} {E₁ : ε' → ε'' → Prop} {E₂ : ε → ε'' → Prop} {R₁ : α' → α'' → Prop}
    {R₂ : α → α'' → Prop} {z : Except ε'' α''} (hxy : Alike E R x y) (hyz : Alike E₁ R₁ y z)
    (hE : ∀ e e' e'', E e e' → E₁ e' e'' → E₂ e e'')
    (hR : ∀ a a' a'', R a a' → R₁ a' a'' → R₂ a a'') : Alike E₂ R₂ x z := by
  cases hxy with
  | ok hxy =>
    cases hyz with
    | ok hyz => exact .ok (hR _ _ _ hxy hyz)
  | error hxy =>
    cases hyz with
    | error hyz => exact .error (hE _ _ _ hxy hyz)

/-- What comes out alike does so the other way round. -/
lemma symm (h : Alike E R x y) : Alike (fun e' e => E e e') (fun a' a => R a a') y x := by
  cases h with
  | ok h => exact .ok h
  | error h => exact .error h

/-- What comes out like a value is one. -/
lemma exists_eq_ok {a : α} (h : Alike E R (.ok a) y) : ∃ a', y = .ok a' ∧ R a a' := by
  cases h with
  | ok h => exact ⟨_, rfl, h⟩

end Alike

end Alike

end Tariff
