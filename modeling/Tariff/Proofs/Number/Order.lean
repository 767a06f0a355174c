import Mathlib.Data.Prod.Lex
import Mathlib.Order.Compare
import Mathlib.Tactic.Lemma

/-!
# The order of doubles

A double that is a number has a place in a linear order, and a comparison of two of them is a
comparison of their places. The two zeros share a place. What is not a number has no place of its
own, and nothing is said about it.

## Main definitions

* `Tariff.Number.place` — the place of a double.

## Main results

* `Tariff.Number.compare_eq_cmp` — a comparison of doubles that are taken apart.
* `Tariff.Number.le_iff`, `Tariff.Number.lt_iff`, `Tariff.Number.beq_iff` — comparisons of doubles.
-/

set_option autoImplicit false

namespace Tariff.Number

open Float.Model

/-! ### Doubles taken apart -/

/-- The place of a double among the numbers, by its kind, its exponent and its significand; both
zeros are in the middle. -/
def placeOf : UnpackedFloat → ℤ ×ₗ ℤ ×ₗ ℤ
  | .infinity .negative => toLex (-2, toLex (0, 0))
  | .finite .negative m e _ => toLex (-1, toLex (-e, -m))
  | .zero _ | .notANumber => toLex (0, toLex (0, 0))
  | .finite .positive m e _ => toLex (1, toLex (e, m))
  | .infinity .positive => toLex (2, toLex (0, 0))

section

variable {c a b m n : ℤ}

/-- Of exponents and significands of one kind, the first difference decides. -/
lemma then_compare : (compare a b).then (compare m n) =
    cmp (toLex (c, toLex (a, m))) (toLex (c, toLex (b, n))) := by
  rcases lt_trichotomy a b with h | rfl | h
  · simp [cmp, cmpUsing, Prod.Lex.lt_iff, h, compare_lt_iff_lt.2 h]
  · rcases lt_trichotomy m n with h | rfl | h
    · simp [cmp, cmpUsing, Prod.Lex.lt_iff, h, compare_lt_iff_lt.2 h]
    · simp [cmp, cmpUsing]
    · simp [cmp, cmpUsing, Prod.Lex.lt_iff, h, compare_gt_iff_gt.2 h, h.le]
  · simp [cmp, cmpUsing, Prod.Lex.lt_iff, h, compare_gt_iff_gt.2 h, h.not_gt, h.ne']

/-- Whole numbers that are not negative compare as integers. -/
lemma compare_natCast (m n : ℕ) : compare (m : ℤ) n = compare m n := by
  rcases lt_trichotomy m n with h | rfl | h
  · rw [compare_lt_iff_lt.2 h, compare_lt_iff_lt.2 (Int.ofNat_lt.2 h)]
  · simp
  · rw [compare_gt_iff_gt.2 h, compare_gt_iff_gt.2 (Int.ofNat_lt.2 h)]

/-- A change of both signs turns a comparison round. -/
lemma compare_neg_neg : compare (-a) (-b) = (compare a b).swap := by
  rcases lt_trichotomy a b with h | rfl | h
  · rw [compare_lt_iff_lt.2 h, compare_gt_iff_gt.2 (Int.neg_lt_neg h)]
    rfl
  · simp
  · rw [compare_gt_iff_gt.2 h, compare_lt_iff_lt.2 (Int.neg_lt_neg h)]
    rfl

end

section

variable {m n : ℕ} {e f : ℤ} {hm : 0 < m} {hn : 0 < n} {x y : UnpackedFloat}

/-- Positive doubles compare by their exponents and significands. -/
lemma compare_positive :
    (UnpackedFloat.finite .positive m e hm).compare (.finite .positive n f hn) =
    some (cmp (placeOf (.finite .positive m e hm)) (placeOf (.finite .positive n f hn))) := by
  change some ((compare e f).then (compare m n)) =
    some (cmp (toLex (1, toLex (e, (m : ℤ)))) (toLex (1, toLex (f, (n : ℤ)))))
  rw [← then_compare, compare_natCast]

/-- Negative doubles compare the other way. -/
lemma compare_negative :
    (UnpackedFloat.finite .negative m e hm).compare (.finite .negative n f hn) =
    some (cmp (placeOf (.finite .negative m e hm)) (placeOf (.finite .negative n f hn))) := by
  change some ((compare e f).then (compare m n)).swap =
    some (cmp (toLex (-1, toLex (-e, -(m : ℤ)))) (toLex (-1, toLex (-f, -(n : ℤ)))))
  rw [← then_compare, compare_neg_neg, compare_neg_neg, compare_natCast, ← Ordering.swap_then]

/-- Doubles that are numbers compare as their places do. -/
lemma compare_eq_cmp (hx : x ≠ .notANumber) (hy : y ≠ .notANumber) :
    x.compare y = some (cmp (placeOf x) (placeOf y)) := by
  rcases x with ⟨_ | _⟩ | _ | _ | ⟨_ | _, m, e, hm⟩ <;>
  rcases y with ⟨_ | _⟩ | _ | _ | ⟨_ | _, n, f, hn⟩
  all_goals
    first
    | exact absurd rfl hx
    | exact absurd rfl hy
    | exact compare_positive
    | exact compare_negative
    | rfl

end

/-- What is not a number compares with nothing. -/
lemma compare_eq_none {x y : UnpackedFloat} (h : x = .notANumber ∨ y = .notANumber) :
    x.compare y = none := by
  rcases h with rfl | rfl
  · rfl
  · cases x <;> rfl

/-! ### Doubles -/

/-- The place of a double among the numbers. -/
def place (x : Float) : ℤ ×ₗ ℤ ×ₗ ℤ :=
  placeOf x.toModel.unpack

section

variable {x y : Float}

/-- A double is a number iff it is one when it is taken apart. -/
lemma isNaN_eq_false_iff : x.isNaN = false ↔ x.toModel.unpack ≠ .notANumber := by
  rw [Float.isNaN, Float.Model.isNaN]
  cases x.toModel.unpack with
  | notANumber => exact iff_of_false (by decide) fun h => h rfl
  | infinity s => exact iff_of_true rfl nofun
  | zero s => exact iff_of_true rfl nofun
  | finite s m e hm => exact iff_of_true rfl nofun

/-- One number is at most another one iff its place is. -/
lemma le_iff (hx : x.isNaN = false) (hy : y.isNaN = false) : x ≤ y ↔ place x ≤ place y := by
  have h := compare_eq_cmp (isNaN_eq_false_iff.1 hx) (isNaN_eq_false_iff.1 hy)
  change Float.le x y = true ↔ _
  rw [Float.le, decide_eq_true_eq]
  change UnpackedFloat.le _ _ = true ↔ _
  rw [UnpackedFloat.le, h, Option.any_some, Ordering.isLE_iff_ne_gt]
  exact (cmp_eq_gt_iff _ _).not.trans not_lt

/-- One number is less than another one iff its place is. -/
lemma lt_iff (hx : x.isNaN = false) (hy : y.isNaN = false) : x < y ↔ place x < place y := by
  have h := compare_eq_cmp (isNaN_eq_false_iff.1 hx) (isNaN_eq_false_iff.1 hy)
  change Float.lt x y = true ↔ _
  rw [Float.lt, decide_eq_true_eq]
  change UnpackedFloat.lt _ _ = true ↔ _
  rw [UnpackedFloat.lt, h, beq_iff_eq, Option.some.injEq, cmp_eq_lt_iff]
  rfl

/-- Numbers are equal iff their places are. -/
lemma beq_iff (hx : x.isNaN = false) (hy : y.isNaN = false) : x == y ↔ place x = place y := by
  have h := compare_eq_cmp (isNaN_eq_false_iff.1 hx) (isNaN_eq_false_iff.1 hy)
  change (UnpackedFloat.compare _ _ == _) = true ↔ _
  rw [h, beq_iff_eq, Option.some.injEq, cmp_eq_eq_iff]
  rfl

/-- Doubles that compare are numbers. -/
lemma isNaN_eq_false_of_compare {o : Ordering}
    (h : (x.toModel.unpack.compare y.toModel.unpack == some o) = true) :
    x.isNaN = false ∧ y.isNaN = false := by
  rw [isNaN_eq_false_iff, isNaN_eq_false_iff]
  constructor
  · intro hx
    rw [compare_eq_none (.inl hx)] at h
    cases h
  · intro hy
    rw [compare_eq_none (.inr hy)] at h
    cases h

/-- What is less than a double is a number, and so is the double. -/
lemma isNaN_eq_false_of_lt (h : x < y) : x.isNaN = false ∧ y.isNaN = false :=
  isNaN_eq_false_of_compare (of_decide_eq_true h)

/-- What equals a double is a number, and so is the double. -/
lemma isNaN_eq_false_of_beq (h : (x == y) = true) : x.isNaN = false ∧ y.isNaN = false :=
  isNaN_eq_false_of_compare h

/-- A finite double is a number. -/
lemma isNaN_eq_false_of_isFinite (h : x.isFinite = true) : x.isNaN = false := by
  rw [isNaN_eq_false_iff]
  intro hnan
  rw [Float.isFinite, Float.Model.isFinite, hnan] at h
  contradiction

/-- A number is infinite iff its place is the first one or the last one. -/
lemma isInf_iff : x.isInf = true ↔ place x = toLex (-2, toLex (0, 0)) ∨
    place x = toLex (2, toLex (0, 0)) := by
  rw [Float.isInf, Float.Model.isInf, place]
  cases x.toModel.unpack with
  | infinity sign =>
    cases sign with
    | negative => exact iff_of_true rfl (.inl rfl)
    | positive => exact iff_of_true rfl (.inr rfl)
  | notANumber => exact iff_of_false Bool.false_ne_true (by decide)
  | zero sign => cases sign <;> exact iff_of_false Bool.false_ne_true (by decide)
  | finite sign m e hm =>
    have hkind : (ofLex (placeOf (.finite sign m e hm))).1 = -1 ∨
        (ofLex (placeOf (.finite sign m e hm))).1 = 1 := by
      cases sign with
      | negative => exact .inl rfl
      | positive => exact .inr rfl
    refine iff_of_false Bool.false_ne_true ?_
    rintro (h | h) <;> rw [h] at hkind <;> simp at hkind

/-- Of equal numbers, both are infinite or none is. -/
lemma isInf_eq_of_beq (h : (x == y) = true) : x.isInf = y.isInf := by
  obtain ⟨hx, hy⟩ := isNaN_eq_false_of_beq h
  rw [Bool.eq_iff_iff, isInf_iff, isInf_iff, (beq_iff hx hy).1 h]

/-- A finite double comes after the negative infinity. -/
lemma place_negInfinity_lt (h : x.isFinite = true) : place (-1.0 / 0.0) < place x := by
  have hinf : place (-1.0 / 0.0) = toLex (-2, toLex (0, 0)) := by
    decide +kernel
  rw [hinf, place]
  rw [Float.isFinite, Float.Model.isFinite] at h
  cases hx : x.toModel.unpack with
  | infinity sign => rw [hx] at h; contradiction
  | notANumber => rw [hx] at h; contradiction
  | zero sign => exact Prod.Lex.toLex_lt_toLex.2 (.inl (by simp))
  | finite sign m e hm =>
    cases sign <;> exact Prod.Lex.toLex_lt_toLex.2 (.inl (by simp))

end

end Tariff.Number
