import Tariff.Proofs.Number.Range
import Tariff.Proofs.Outcome
import Tariff.Value.Scalar

/-!
# Values that overflow

A whole number may be beyond the doubles or have too many digits to be written, an infinity is no
whole number, and lists and objects may be nested too deeply for a value to be written. Reading a
value ends in a fault that is not confined only because of such an overflow inside of it, and no
value cannot be written without one.

## Main definitions

* `Tariff.IsOversized` — a whole number is beyond the doubles.
* `Tariff.Value.depth` — how deep lists and objects are nested in a value.
* `Tariff.Value.Overflows` — the overflows inside of a value.
* `Tariff.Value.OverflowsOnly` — a computation on a value ends in confined faults and in overflows.
* `Tariff.Value.Holds` — a value holds the overflows of another one.

## Main results

* `Tariff.Value.overflows_of_literal`, `Tariff.Value.overflows_of_shown` — why a value cannot be
  written.
* `Tariff.Value.OverflowsOnly.bind`, `Tariff.Value.OverflowsOnly.mapM` — computations in steps.
* `Tariff.Value.OverflowsOnly.get_read`, `Tariff.Value.OverflowsOnly.get_items` — computations on
  parts of a value.
* `Tariff.Value.overflowsOnly_toInt?`, `Tariff.Value.overflowsOnly_toFloat?` — numbers.
-/

set_option autoImplicit false

namespace Tariff

open Tariff.Number

variable {n : Int} {cause : Fault}

/-- A whole number is beyond the doubles. -/
def IsOversized (v : Value) : Prop :=
  ∃ n, v = .int n ∧ ofInt? n = none

/-- A whole number that cannot be read as a double is beyond the doubles. -/
lemma toFloat_int_eq_error_iff :
    (Value.int n).toFloat = .error cause ↔ ofInt? n = none ∧ cause = .tooLarge := by
  rw [Value.toFloat]
  split <;> simp [*, eq_comm]

/-- Zero is not beyond the doubles. -/
lemma not_isOversized_zero : ¬IsOversized (.int 0) := by
  rintro ⟨n, hn, hsize⟩
  obtain rfl := Value.int.inj hn
  exact absurd hsize (by decide)

namespace Value

variable {α β : Type} {u v : Value} {name : String}

mutual

/-- How deep lists and objects are nested in a value. -/
def depth : Value → Nat
  | list items => depthOfItems items + 1
  | object members => depthOfMembers members + 1
  | _ => 0

/-- How deep they are nested in the items of a list. -/
def depthOfItems : List Value → Nat
  | [] => 0
  | v :: rest => max v.depth (depthOfItems rest)

/-- How deep they are nested in the members of an object. -/
def depthOfMembers : List (String × Value) → Nat
  | [] => 0
  | (_, v) :: rest => max v.depth (depthOfMembers rest)

end

/-- The overflows inside of a value, with the faults in which they end. -/
inductive Overflows : Value → Fault → Prop where
  /-- an infinity as a whole number -/
  | infinity {x : Float} (hinfinite : x.isFinite = false) (hnumber : x.isNaN = false) :
    Overflows (.float x) .infinityAsInteger
  /-- a whole number as a double -/
  | oversized {n : Int} (h : ofInt? n = none) : Overflows (.int n) .tooLarge
  /-- a whole number as a text -/
  | digits {n : Int} (h : isWritable n = false) : Overflows (.int n) .integerUnwritable
  /-- a value with more lists and objects inside of each other than can be written -/
  | deep {v : Value} (h : standardCalls < v.depth) : Overflows v .callsExhausted
  /-- an overflow in an item of a list -/
  | item {items : List Value} {v : Value} {cause : Fault} (hv : v ∈ items)
    (h : Overflows v cause) : Overflows (.list items) cause
  /-- an overflow in a member of an object -/
  | member {members : List (String × Value)} {m : String × Value} {cause : Fault}
    (hm : m ∈ members) (h : Overflows m.2 cause) : Overflows (.object members) cause

/-- A computation on a value ends in no faults but those that are confined to its entry, and the
overflows inside of the value. -/
def OverflowsOnly (v : Value) (r : Except Fault α) : Prop :=
  ∀ cause, r = .error cause → cause.isConfined = true ∨ v.Overflows cause

/-! ### Computations in steps -/

namespace OverflowsOnly

variable {r : Except Fault α} {f : α → Except Fault β}

/-- A computation with a value ends in no fault. -/
lemma ok (v : Value) (a : α) : v.OverflowsOnly (.ok a : Except Fault α) :=
  nofun

/-- A confined fault is permitted. -/
lemma error (v : Value) (h : cause.isConfined = true) :
    v.OverflowsOnly (.error cause : Except Fault α) := by
  rintro _ ⟨⟩
  exact .inl h

/-- A computation in two steps. -/
lemma bind (h : v.OverflowsOnly r) (hf : ∀ a, r = .ok a → v.OverflowsOnly (f a)) :
    v.OverflowsOnly (r >>= f) := by
  intro cause hcause
  rcases bind_eq_error.1 hcause with hr | ⟨a, ha, hfault⟩
  · exact h cause hr
  · exact hf a ha cause hfault

/-- A step that cannot fail. -/
lemma map {f : α → β} (h : v.OverflowsOnly r) : v.OverflowsOnly (r.map f) :=
  fun cause hcause => h cause (map_eq_error.1 hcause)

/-- A step for each element of a list. -/
lemma mapM {as : List α} (h : ∀ a ∈ as, v.OverflowsOnly (f a)) : v.OverflowsOnly (as.mapM f) := by
  induction as with
  | nil => exact ok v []
  | cons a as ih =>
    rw [List.forall_mem_cons] at h
    rw [List.mapM_cons]
    exact h.1.bind fun b _ => (ih h.2).bind fun bs _ => ok v (b :: bs)

end OverflowsOnly

/-! ### Parts of a value -/

/-- The overflows inside of a value are inside of another one, too. -/
def Holds (v u : Value) : Prop :=
  ∀ ⦃cause⦄, u.Overflows cause → v.Overflows cause

/-- What is held by a part of a value is held by the value. -/
lemma Holds.trans {w : Value} (hu : v.Holds u) (hw : u.Holds w) : v.Holds w :=
  fun _ h => hu (hw h)

/-- A computation on a part of a value. -/
lemma OverflowsOnly.of_holds {r : Except Fault α} (h : u.OverflowsOnly r) (hu : v.Holds u) :
    v.OverflowsOnly r :=
  fun cause hcause => (h cause hcause).imp_right fun hfault => hu hfault

/-- Every value holds null. -/
lemma holds_null (v : Value) : v.Holds .null := by
  rintro _ (_ | _ | _ | h)
  exact absurd h (Nat.not_lt_zero _)

/-- Every value holds the texts. -/
lemma holds_text (v : Value) (s : String) : v.Holds (.text s) := by
  rintro _ (_ | _ | _ | h)
  exact absurd h (Nat.not_lt_zero _)

/-- A name is looked up in an object, or else in vain. -/
lemma overflowsOnly_find (v : Value) (name : String) : v.OverflowsOnly (v.find name) := by
  cases v with
  | object members => exact .ok _ _
  | _ => exact .error _ rfl

/-- A value holds what is looked up in it. -/
lemma holds_of_find (h : v.find name = .ok (some u)) : v.Holds u := by
  cases v with
  | object members =>
    obtain ⟨m, hm, rfl⟩ := Option.map_eq_some_iff.1 (Except.ok.inj h)
    exact fun cause hu => .member (List.mem_of_find?_eq_some hm) hu
  | _ => cases h

/-- A value holds what is looked up in it. -/
lemma holds_of_get (h : v.get name = .ok u) : v.Holds u := by
  obtain ⟨found, hfound, rfl⟩ := map_eq_ok.1 h
  cases found with
  | none => exact holds_null v
  | some u => exact holds_of_find hfound

/-- A name that is required is looked up in an object, or else in vain. -/
lemma overflowsOnly_require (v : Value) (name : String) : v.OverflowsOnly (v.require name) := by
  cases v with
  | object members =>
    rw [require]
    split
    · exact .ok _ _
    · exact .error _ rfl
  | _ => exact .error _ rfl

/-- A value holds what is required of it. -/
lemma holds_of_require (h : v.require name = .ok u) : v.Holds u := by
  cases v with
  | object members =>
    rw [require] at h
    split at h
    · next hfound =>
      obtain rfl := Except.ok.inj h
      exact holds_of_find (congrArg _ hfound)
    · cases h
  | _ => cases h

/-- The items of a value are asked for, perhaps in vain. -/
lemma overflowsOnly_itemsIfAny (v : Value) : v.OverflowsOnly v.itemsIfAny := by
  rw [itemsIfAny]
  split
  · exact .ok _ _
  · cases v with
    | list items => exact .ok _ _
    | text s => exact .ok _ _
    | object members => exact .ok _ _
    | _ => exact .error _ rfl

/-- A value holds its items. -/
lemma holds_of_itemsIfAny {us : List Value} (h : v.itemsIfAny = .ok us) : ∀ u ∈ us, v.Holds u := by
  intro u hu
  rw [itemsIfAny] at h
  split at h
  · obtain rfl := Except.ok.inj h
    cases hu
  · cases v with
    | list items =>
      obtain rfl := Except.ok.inj h
      exact fun cause hfault => .item hu hfault
    | text s =>
      obtain rfl := Except.ok.inj h
      obtain ⟨c, -, rfl⟩ := List.mem_map.1 hu
      exact holds_text _ _
    | object members =>
      obtain rfl := Except.ok.inj h
      obtain ⟨m, -, rfl⟩ := List.mem_map.1 hu
      exact holds_text _ _
    | _ => cases h

namespace OverflowsOnly

variable {read : Value → Except Fault α} {f : α → Except Fault β}

/-- A computation that starts with a look-up. -/
lemma get {f : Value → Except Fault β} (hf : ∀ u, v.Holds u → v.OverflowsOnly (f u)) :
    v.OverflowsOnly (v.get name >>= f) :=
  (overflowsOnly_find v name).map.bind fun u hu => hf u (holds_of_get hu)

/-- A computation that starts with reading what is looked up. -/
lemma get_read (hread : ∀ u : Value, u.OverflowsOnly (read u)) (hf : ∀ a, v.OverflowsOnly (f a)) :
    v.OverflowsOnly (v.get name >>= fun u => read u >>= f) :=
  get fun u hu => ((hread u).of_holds hu).bind fun a _ => hf a

/-- A computation that starts with reading what is required. -/
lemma require_read (hread : ∀ u : Value, u.OverflowsOnly (read u))
    (hf : ∀ a, v.OverflowsOnly (f a)) :
    v.OverflowsOnly (v.require name >>= fun u => read u >>= f) :=
  (overflowsOnly_require v name).bind fun u hu =>
    ((hread u).of_holds (holds_of_require hu)).bind fun a _ => hf a

/-- A computation that starts with reading what is found, if anything is. -/
lemma find_read {read : Option Value → Except Fault α}
    (hread : ∀ found : Option Value, (∀ u, found = some u → v.Holds u) →
      v.OverflowsOnly (read found)) (hf : ∀ a, v.OverflowsOnly (f a)) :
    v.OverflowsOnly (v.find name >>= fun found => read found >>= f) :=
  (overflowsOnly_find v name).bind fun found hfound =>
    (hread found fun _ hu => holds_of_find (hu ▸ hfound)).bind fun a _ => hf a

/-- A computation that starts with the items of what is looked up. -/
lemma get_items {f : List Value → Except Fault β}
    (hf : ∀ us, (∀ u ∈ us, v.Holds u) → v.OverflowsOnly (f us)) :
    v.OverflowsOnly (v.get name >>= fun u => u.itemsIfAny >>= f) :=
  get fun u hu => ((overflowsOnly_itemsIfAny u).of_holds hu).bind fun _ hitems =>
    hf _ fun w hw => hu.trans (holds_of_itemsIfAny hitems w hw)

/-- Reading each of some parts of a value. -/
lemma mapM_read {us : List Value} (hread : ∀ u : Value, u.OverflowsOnly (read u))
    (hus : ∀ u ∈ us, v.Holds u) : v.OverflowsOnly (us.mapM read) :=
  mapM fun u hu => (hread u).of_holds (hus u hu)

end OverflowsOnly

/-! ### Writing -/

mutual

/-- A value cannot be written with some room because lists and objects are nested more deeply, or
because of an overflow inside of it. -/
lemma overflows_of_literalWithin (room : Nat) (cause : Fault) :
    ∀ v : Value, v.literalWithin room = .error cause →
      cause = .callsExhausted ∧ room < v.depth ∨ v.Overflows cause
  | .null | .bool _ | .float _ | .text _ => by simp [literalWithin]
  | .int n => by
    intro h
    rw [literalWithin] at h
    split at h
    · cases h
    · next hwritable =>
      obtain rfl := Except.error.inj h
      exact .inr (.digits (by simpa using hwritable))
  | .list items => by
    intro h
    rw [literalWithin, nest_bind_eq_error_iff] at h
    rw [depth]
    rcases h with ⟨hroom, rfl⟩ | ⟨hroom, h⟩
    · exact .inl ⟨rfl, by omega⟩
    rcases bind_eq_error.1 h with h | ⟨_, -, h⟩
    · rcases overflows_of_literalsWithin (room - 1) cause items h with ⟨hcause, hlt⟩ | ⟨v, hv, h⟩
      · exact .inl ⟨hcause, by omega⟩
      · exact .inr (.item hv h)
    · cases h
  | .object members => by
    intro h
    rw [literalWithin, nest_bind_eq_error_iff] at h
    rw [depth]
    rcases h with ⟨hroom, rfl⟩ | ⟨hroom, h⟩
    · exact .inl ⟨rfl, by omega⟩
    rcases bind_eq_error.1 h with h | ⟨_, -, h⟩
    · rcases overflows_of_memberLiteralsWithin (room - 1) cause members h with
        ⟨hcause, hlt⟩ | ⟨m, hm, h⟩
      · exact .inl ⟨hcause, by omega⟩
      · exact .inr (.member hm h)
    · cases h

/-- The items of a list cannot be written because one of them cannot. -/
lemma overflows_of_literalsWithin (room : Nat) (cause : Fault) :
    ∀ items : List Value, literalsWithin room items = .error cause →
      cause = .callsExhausted ∧ room < depthOfItems items ∨ ∃ v ∈ items, v.Overflows cause
  | [] => by simp [literalsWithin]
  | v :: rest => by
    intro h
    rw [literalsWithin] at h
    rw [depthOfItems]
    rcases bind_eq_error.1 h with h | ⟨_, -, h⟩
    · rcases overflows_of_literalWithin room cause v h with ⟨hcause, hlt⟩ | h
      · exact .inl ⟨hcause, by omega⟩
      · exact .inr ⟨_, List.mem_cons_self, h⟩
    rcases bind_eq_error.1 h with h | ⟨_, -, h⟩
    · rcases overflows_of_literalsWithin room cause rest h with ⟨hcause, hlt⟩ | ⟨v, hv, h⟩
      · exact .inl ⟨hcause, by omega⟩
      · exact .inr ⟨v, List.mem_cons_of_mem _ hv, h⟩
    · cases h

/-- The members of an object cannot be written because the value of one of them cannot. -/
lemma overflows_of_memberLiteralsWithin (room : Nat) (cause : Fault) :
    ∀ members : List (String × Value), memberLiteralsWithin room members = .error cause →
      cause = .callsExhausted ∧ room < depthOfMembers members ∨
        ∃ m ∈ members, m.2.Overflows cause
  | [] => by simp [memberLiteralsWithin]
  | (name, v) :: rest => by
    intro h
    rw [memberLiteralsWithin] at h
    rw [depthOfMembers]
    rcases bind_eq_error.1 h with h | ⟨_, -, h⟩
    · rcases overflows_of_literalWithin room cause v h with ⟨hcause, hlt⟩ | h
      · exact .inl ⟨hcause, by omega⟩
      · exact .inr ⟨_, List.mem_cons_self, h⟩
    rcases bind_eq_error.1 h with h | ⟨_, -, h⟩
    · rcases overflows_of_memberLiteralsWithin room cause rest h with ⟨hcause, hlt⟩ | ⟨m, hm, h⟩
      · exact .inl ⟨hcause, by omega⟩
      · exact .inr ⟨m, List.mem_cons_of_mem _ hm, h⟩
    · cases h

end

/-- **Why a value has no literal.** There is an overflow inside of it. -/
lemma overflows_of_literal (h : v.literal = .error cause) : v.Overflows cause := by
  rcases overflows_of_literalWithin _ _ _ h with ⟨rfl, hlt⟩ | h
  · exact .deep hlt
  · exact h

/-- **Why a value cannot be shown.** There is an overflow inside of it. -/
lemma overflows_of_shown (h : v.shown = .error cause) : v.Overflows cause := by
  cases v with
  | text s => cases h
  | _ => exact overflows_of_literal h

/-- A value is shown, if nothing inside of it overflows. -/
lemma overflowsOnly_shown (v : Value) : v.OverflowsOnly v.shown :=
  fun _ h => .inr (overflows_of_shown h)

/-- What is found is shown, if nothing inside of it overflows. -/
lemma overflowsOnly_shownOr {found : Option Value} (h : ∀ u, found = some u → v.Holds u)
    (standard : String) : v.OverflowsOnly (shownOr found standard) := by
  cases found with
  | none => exact .ok _ _
  | some u => exact u.overflowsOnly_shown.of_holds (h u rfl)

/-! ### Scalars -/

/-- Of the doubles, an infinity overflows as a whole number. -/
lemma overflowsOnly_toInt (v : Value) : v.OverflowsOnly v.toInt := by
  cases v with
  | bool b => exact .ok _ _
  | int n => exact .ok _ _
  | float x =>
    rw [toInt]
    split
    · exact .ok _ _
    next hnone =>
    have hinfinite : x.isFinite = false := by
      refine Bool.eq_false_iff.2 fun hfinite => ?_
      obtain ⟨i, hi⟩ := exists_truncation? hfinite
      simp [hi] at hnone
    cases hnumber : x.isNaN with
    | true => exact .error _ rfl
    | false =>
      rintro _ ⟨⟩
      exact .inr (.infinity hinfinite hnumber)
  | text s =>
    rw [toInt]
    split
    · exact .ok _ _
    · exact .error _ rfl
    · exact .error _ rfl
  | _ => exact .error _ rfl

/-- Of the whole numbers, those beyond the doubles overflow. -/
lemma overflowsOnly_toFloat (v : Value) : v.OverflowsOnly v.toFloat := by
  cases v with
  | bool b => exact .ok _ _
  | int n =>
    intro cause hcause
    obtain ⟨hsize, rfl⟩ := toFloat_int_eq_error_iff.1 hcause
    exact .inr (.oversized hsize)
  | float x => exact .ok _ _
  | text s =>
    rw [toFloat]
    split
    · exact .ok _ _
    · exact .error _ rfl
  | _ => exact .error _ rfl

/-- An optional whole number overflows as one that has to be there does. -/
lemma overflowsOnly_toInt? (v : Value) : v.OverflowsOnly v.toInt? := by
  rw [toInt?]
  split
  · exact .ok _ _
  · exact (overflowsOnly_toInt v).map

/-- An optional double overflows as one that has to be there does. -/
lemma overflowsOnly_toFloat? (v : Value) : v.OverflowsOnly v.toFloat? := by
  rw [toFloat?]
  split
  · exact .ok _ _
  · exact (overflowsOnly_toFloat v).map

/-- What is wrong with a moment is confined. -/
lemma overflowsOnly_read (v : Value) (s : String) : v.OverflowsOnly (Moment.read s) := by
  have hparts : ∀ parts, v.OverflowsOnly (Moment.ofParts parts) := by
    intro parts
    rw [Moment.ofParts]
    split
    · exact .error _ rfl
    · exact .ok _ _
  rw [Moment.read]
  split
  · exact .error _ rfl
  · exact hparts _
  · split
    · exact .error _ rfl
    · exact hparts _

/-- An optional text is shown, if nothing inside of it overflows. -/
lemma overflowsOnly_toText? (v : Value) : v.OverflowsOnly v.toText? := by
  rw [toText?]
  split
  · exact .ok _ _
  · exact v.overflowsOnly_shown.map

/-- A truth value is shown, if nothing inside of it overflows. -/
lemma overflowsOnly_toBool (v : Value) (standard : Bool) :
    v.OverflowsOnly (v.toBool standard) := by
  unfold toBool
  split
  · exact .ok _ _
  · exact .ok _ _
  · exact (overflowsOnly_shown _).map

/-- What is wrong with an optional moment is confined, if it can be shown. -/
lemma overflowsOnly_toMoment? (v : Value) : v.OverflowsOnly v.toMoment? := by
  rw [toMoment?]
  refine v.overflowsOnly_toText?.bind fun s _ => ?_
  cases s with
  | none => exact .ok _ _
  | some s => exact (overflowsOnly_read _ _).map

end Value

end Tariff
