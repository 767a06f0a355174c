import Mathlib.Algebra.Order.Field.Power
import Mathlib.Algebra.Order.Floor.Ring
import Mathlib.Data.Int.Log
import Mathlib.Data.Rat.Floor
import Mathlib.Tactic.FieldSimp
import Mathlib.Tactic.Lemma
import Mathlib.Tactic.Linarith
import Mathlib.Tactic.NormNum
import Mathlib.Tactic.Positivity
import Mathlib.Tactic.Ring

/-!
# The nearest binary number

Doubles are whole numbers of at most 53 binary digits, times powers of two that are not too small. A
number from zero on is rounded to the nearest one of that kind, however large it is; of two that are
as near, to the one with the even digits.

## Main definitions

* `Tariff.Number.halfEven` — the nearest whole number.
* `Tariff.Number.unit` — the distance of the binary numbers around a number.
* `Tariff.Number.rounded` — the nearest binary number.

## Main results

* `Tariff.Number.rounded_mono` — rounding keeps the order.
* `Tariff.Number.rounded_digits` — a binary number is rounded to itself.
* `Tariff.Number.abs_rounded_sub_le` — rounding moves a number by at most half a unit.
* `Tariff.Number.rounded_le_fraction`, `Tariff.Number.fraction_le_rounded` — bounds that are binary
  fractions.
-/

set_option autoImplicit false

namespace Tariff.Number

/-! ### Whole numbers -/

section

variable {a b q : ℚ} {n : ℤ}

/-- The nearest whole number, of two the even one. -/
def halfEven (q : ℚ) : ℤ :=
  if q - ⌊q⌋ < 1 / 2 then ⌊q⌋
  else if 1 / 2 < q - ⌊q⌋ then ⌊q⌋ + 1
  else ⌊q⌋ + ⌊q⌋ % 2

/-- The nearest whole number is one of the two around. -/
lemma halfEven_bounds (q : ℚ) : ⌊q⌋ ≤ halfEven q ∧ halfEven q ≤ ⌊q⌋ + 1 := by
  unfold halfEven
  split_ifs <;> omega

/-- A whole number is rounded to itself. -/
lemma halfEven_intCast (n : ℤ) : halfEven n = n := by
  simp [halfEven]

/-- Rounding to a whole number keeps the order.

**Proof sketch.** Between two whole numbers, the distance from the lower one decides. With a whole
number between the two it is between the results as well. -/
lemma halfEven_mono (h : a ≤ b) : halfEven a ≤ halfEven b := by
  have hfloor := Int.floor_mono h
  rcases hfloor.lt_or_eq with hlt | heq
  · have ha := (halfEven_bounds a).2
    have hb := (halfEven_bounds b).1
    omega
  · unfold halfEven
    rw [heq]
    have hsub : a - ⌊b⌋ ≤ b - ⌊b⌋ := by linarith
    split_ifs <;> first | omega | (exfalso; linarith)

/-- Rounding to a whole number moves a number by at most one half. -/
lemma abs_halfEven_sub_le (q : ℚ) : |(halfEven q : ℚ) - q| ≤ 1 / 2 := by
  have hlow := Int.floor_le q
  have hhigh := Int.lt_floor_add_one q
  unfold halfEven
  rw [abs_le]
  split_ifs with hlt hgt
  · constructor <;> linarith
  · push_cast
    constructor <;> linarith
  · rcases Int.emod_two_eq_zero_or_one ⌊q⌋ with hmod | hmod <;> rw [hmod] <;> push_cast <;>
      constructor <;> linarith

end

/-! ### Binary numbers -/

section

variable {v w : ℚ} {m : ℕ} {e : ℤ}

/-- The distance of the binary numbers around a number, as a power of two. -/
def unit (v : ℚ) : ℤ :=
  max (Int.log 2 v - 52) (-1074)

/-- The nearest binary number, of two the one with the even digits. -/
def rounded (v : ℚ) : ℚ :=
  halfEven (v / 2 ^ unit v) * 2 ^ unit v

/-- No unit is below the least one. -/
lemma neg_le_unit (v : ℚ) : -1074 ≤ unit v :=
  le_max_right _ _

/-- A greater number has no lesser unit. -/
lemma unit_mono (hv : 0 < v) (h : v ≤ w) : unit v ≤ unit w :=
  max_le_max (Int.sub_le_sub_right (Int.log_mono_right hv h) 52) le_rfl

/-- A number has at most 53 digits before the point if it is counted in units. -/
lemma lt_unit (v : ℚ) : v < 2 ^ (unit v + 53) := by
  have hlog := Int.lt_zpow_succ_log_self (by norm_num : 1 < 2) v
  refine hlog.trans_le (zpow_le_zpow_right₀ (by norm_num) ?_)
  have := le_max_left (Int.log 2 v - 52) (-1074)
  rw [unit]
  omega

/-- A number has 53 digits before the point if it is counted in units, unless its unit is the least
one. -/
lemma unit_le (hv : 0 < v) (h : -1074 < unit v) : 2 ^ (unit v + 52) ≤ v := by
  have hlog := Int.zpow_log_le_self (by norm_num : 1 < 2) hv
  have heq : unit v + 52 = Int.log 2 v := by
    rw [unit] at h ⊢
    omega
  rwa [heq]

/-- The unit of a number that has 53 digits before the point if it is counted so. -/
lemma unit_eq (hle : 2 ^ (e + 52) ≤ v) (hlt : v < 2 ^ (e + 53)) (he : -1074 ≤ e) : unit v = e := by
  have hv : 0 < v := lt_of_lt_of_le (by positivity) hle
  have hlog : Int.log 2 v = e + 52 := by
    apply le_antisymm
    · have := (Int.lt_zpow_iff_log_lt (by norm_num : 1 < 2) hv).1 hlt
      omega
    · exact (Int.zpow_le_iff_le_log (by norm_num : 1 < 2) hv).1 hle
  rw [unit, hlog]
  omega

/-- Powers of two are positive. -/
lemma two_zpow_pos (e : ℤ) : (0 : ℚ) < 2 ^ e := by
  positivity

/-- Zero is rounded to itself. -/
@[simp] lemma rounded_zero : rounded 0 = 0 := by
  have h := halfEven_intCast 0
  rw [Int.cast_zero] at h
  rw [rounded, zero_div, h, Int.cast_zero, zero_mul]

/-- A number counted in units is not negative if the number is not. -/
lemma rounded_nonneg (hv : 0 ≤ v) : 0 ≤ rounded v := by
  have h : halfEven 0 ≤ halfEven (v / 2 ^ unit v) :=
    halfEven_mono (div_nonneg hv (two_zpow_pos _).le)
  have hzero : halfEven 0 = 0 := by simpa using halfEven_intCast 0
  rw [hzero] at h
  exact mul_nonneg (by exact_mod_cast h) (two_zpow_pos _).le

/-- Rounding gives at most 53 digits, or one more and then a power of two. -/
lemma halfEven_le_two_pow (v : ℚ) : halfEven (v / 2 ^ unit v) ≤ 2 ^ 53 := by
  have hlt : v / 2 ^ unit v ≤ ((2 ^ 53 : ℤ) : ℚ) := by
    rw [div_le_iff₀ (two_zpow_pos _)]
    have h := (lt_unit v).le
    rw [zpow_add₀ (by norm_num), mul_comm] at h
    exact_mod_cast h
  have h := halfEven_mono hlt
  rwa [halfEven_intCast] at h

/-- Rounding gives 53 digits, unless the unit is the least one. -/
lemma two_pow_le_halfEven (hv : 0 < v) (h : -1074 < unit v) :
    2 ^ 52 ≤ halfEven (v / 2 ^ unit v) := by
  have hle : ((2 ^ 52 : ℤ) : ℚ) ≤ v / 2 ^ unit v := by
    rw [le_div_iff₀ (two_zpow_pos _)]
    have h := unit_le hv h
    rw [zpow_add₀ (by norm_num), mul_comm] at h
    exact_mod_cast h
  have h := halfEven_mono hle
  rwa [halfEven_intCast] at h

/-- **Rounding keeps the order.**

**Proof sketch.** Numbers with one unit are rounded as numbers of units are to whole ones. Of two
numbers with different units, the lesser is rounded to at most `2 ^ 53` of its units, and the
greater to at least `2 ^ 52` of its own. -/
theorem rounded_mono (hv : 0 ≤ v) (h : v ≤ w) : rounded v ≤ rounded w := by
  rcases hv.eq_or_lt with rfl | hv
  · rw [rounded_zero]
    exact rounded_nonneg h
  rcases (unit_mono hv h).eq_or_lt with heq | hlt
  · rw [rounded, rounded, heq]
    have hdiv : v / 2 ^ unit w ≤ w / 2 ^ unit w :=
      div_le_div_of_nonneg_right h (two_zpow_pos _).le
    exact mul_le_mul_of_nonneg_right (by exact_mod_cast halfEven_mono hdiv) (two_zpow_pos _).le
  · have hlow : (halfEven (v / 2 ^ unit v) : ℚ) ≤ 2 ^ (53 : ℤ) := by
      exact_mod_cast halfEven_le_two_pow v
    have hhigh : (2 : ℚ) ^ (52 : ℤ) ≤ halfEven (w / 2 ^ unit w) := by
      exact_mod_cast two_pow_le_halfEven (hv.trans_le h) (lt_of_le_of_lt (neg_le_unit v) hlt)
    calc
      rounded v ≤ 2 ^ (53 : ℤ) * 2 ^ unit v :=
        mul_le_mul_of_nonneg_right hlow (two_zpow_pos _).le
      _ = 2 ^ (53 + unit v) := (zpow_add₀ (by norm_num) _ _).symm
      _ ≤ 2 ^ (52 + unit w) := zpow_le_zpow_right₀ (by norm_num) (by omega)
      _ = 2 ^ (52 : ℤ) * 2 ^ unit w := zpow_add₀ (by norm_num) _ _
      _ ≤ rounded w := mul_le_mul_of_nonneg_right hhigh (two_zpow_pos _).le

/-- The unit of a binary number is at most that of its digits. -/
lemma unit_digits_le (hm : 0 < m) (hlt : m < 2 ^ 53) (he : -1074 ≤ e) :
    unit (m * 2 ^ e) ≤ e := by
  by_contra hgt
  have hpos : (0 : ℚ) < m * 2 ^ e := mul_pos (by exact_mod_cast hm) (two_zpow_pos e)
  have hle := unit_le hpos (by omega)
  have hdigits : (m : ℚ) * 2 ^ e < 2 ^ (53 : ℤ) * 2 ^ e :=
    mul_lt_mul_of_pos_right (by exact_mod_cast hlt) (two_zpow_pos e)
  rw [← zpow_add₀ (by norm_num)] at hdigits
  have hexp := (zpow_lt_zpow_iff_right₀ (by norm_num : (1 : ℚ) < 2)).1 (hle.trans_lt hdigits)
  omega

/-- **A binary number is rounded to itself.** -/
theorem rounded_digits (hlt : m < 2 ^ 53) (he : -1074 ≤ e) : rounded (m * 2 ^ e) = m * 2 ^ e := by
  rcases Nat.eq_zero_or_pos m with rfl | hm
  · simp
  have hunit := unit_digits_le hm hlt he
  obtain ⟨d, hd⟩ := Int.eq_ofNat_of_zero_le (sub_nonneg.2 hunit)
  have hdiv : (m : ℚ) * 2 ^ e / 2 ^ unit (m * 2 ^ e) = ((m * 2 ^ d : ℤ) : ℚ) := by
    rw [mul_div_assoc, ← zpow_sub₀ (by norm_num), hd]
    push_cast
    rw [zpow_natCast]
  rw [rounded, hdiv, halfEven_intCast, ← hdiv, div_mul_cancel₀ _ (two_zpow_pos _).ne']

/-- What is rounded is a binary number. -/
lemma rounded_rounded (hv : 0 ≤ v) : rounded (rounded v) = rounded v := by
  obtain ⟨m, hm⟩ : ∃ m : ℕ, halfEven (v / 2 ^ unit v) = m := by
    have hnonneg := rounded_nonneg hv
    rw [rounded, mul_nonneg_iff_of_pos_right (two_zpow_pos _)] at hnonneg
    exact Int.eq_ofNat_of_zero_le (by exact_mod_cast hnonneg)
  have heq : rounded v = m * 2 ^ unit v := by
    rw [rounded, hm]
    push_cast
    rfl
  rw [heq]
  rcases (show (m : ℤ) ≤ 2 ^ 53 from hm ▸ halfEven_le_two_pow v).lt_or_eq with hlt | hpow
  · exact rounded_digits (by exact_mod_cast hlt) (neg_le_unit v)
  · have hone : (m : ℚ) * 2 ^ unit v = (1 : ℕ) * 2 ^ (53 + unit v) := by
      have hpow : (m : ℚ) = 2 ^ (53 : ℤ) := by exact_mod_cast hpow
      rw [hpow, Nat.cast_one, one_mul, zpow_add₀ (by norm_num)]
    have hlow := neg_le_unit v
    rw [hone]
    exact rounded_digits (by norm_num) (by omega)

/-- A fraction of at most 53 binary digits is rounded to itself. -/
lemma rounded_fraction {k d : ℕ} (hk : k < 2 ^ 53) (hd : d ≤ 1074) :
    rounded ((k : ℚ) / 2 ^ d) = k / 2 ^ d := by
  have h := rounded_digits hk (show (-1074 : ℤ) ≤ -d by omega)
  rwa [zpow_neg, zpow_natCast, ← div_eq_mul_inv] at h

/-- What is at most such a fraction stays so. -/
lemma rounded_le_fraction {k d : ℕ} (hk : k < 2 ^ 53) (hd : d ≤ 1074) (hv : 0 ≤ v)
    (h : v ≤ k / 2 ^ d) : rounded v ≤ k / 2 ^ d :=
  rounded_fraction hk hd ▸ rounded_mono hv h

/-- What is at most a whole number of 53 binary digits stays so. -/
lemma rounded_le_natCast {k : ℕ} (hk : k < 2 ^ 53) (hv : 0 ≤ v) (h : v ≤ k) : rounded v ≤ k := by
  simpa using rounded_le_fraction (d := 0) hk (by norm_num) hv (by simpa using h)

/-- What is at least such a fraction stays so. -/
lemma fraction_le_rounded {k d : ℕ} (hk : k < 2 ^ 53) (hd : d ≤ 1074) (h : k / 2 ^ d ≤ v) :
    k / 2 ^ d ≤ rounded v :=
  rounded_fraction hk hd ▸ rounded_mono (by positivity) h

/-- Rounding moves a number by at most half a unit. -/
theorem abs_rounded_sub_le (v : ℚ) : |rounded v - v| ≤ 2 ^ unit v / 2 := by
  have hpos := two_zpow_pos (unit v)
  have heq : rounded v - v = (halfEven (v / 2 ^ unit v) - v / 2 ^ unit v) * 2 ^ unit v := by
    rw [sub_mul, div_mul_cancel₀ _ hpos.ne', rounded]
  rw [heq, abs_mul, abs_of_pos hpos]
  calc
    |(halfEven (v / 2 ^ unit v) : ℚ) - v / 2 ^ unit v| * 2 ^ unit v ≤ 1 / 2 * 2 ^ unit v :=
      mul_le_mul_of_nonneg_right (abs_halfEven_sub_le _) hpos.le
    _ = 2 ^ unit v / 2 := by ring

/-- Rounding moves a number up to a power of two by at most half the unit of those below it. -/
lemma abs_rounded_sub_le_of_le (hv : 0 < v) (h : v ≤ 2 ^ e) (he : -1021 ≤ e) :
    |rounded v - v| ≤ 2 ^ (e - 54) := by
  rcases h.lt_or_eq with hlt | heq
  · have hunit : unit v ≤ e - 53 := by
      have hlog := (Int.lt_zpow_iff_log_lt (by norm_num : 1 < 2) hv).1 hlt
      rw [unit]
      omega
    calc
      |rounded v - v| ≤ 2 ^ unit v / 2 := abs_rounded_sub_le v
      _ ≤ 2 ^ (e - 53) / 2 := by
        gcongr
        norm_num
      _ = 2 ^ (e - 53 - 1) := by rw [zpow_sub_one₀ (by norm_num), div_eq_mul_inv]
      _ = 2 ^ (e - 54) := by rw [sub_sub]; norm_num
  · have hexact : rounded v = v := by
      have h := rounded_digits (show 1 < 2 ^ 53 by norm_num) (show -1074 ≤ e by omega)
      rwa [Nat.cast_one, one_mul, ← heq] at h
    rw [hexact, sub_self, abs_zero]
    exact (two_zpow_pos _).le

end

end Tariff.Number
