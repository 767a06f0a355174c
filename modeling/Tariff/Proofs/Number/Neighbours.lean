import Tariff.Proofs.Number.Nearest

/-!
# Neighbours among the binary numbers

Between a binary number and the next one, the middle decides what a number is rounded to. Near a
binary number, by less than half a unit, it is that number; in the middle it is the one with the
even digits; and beyond the middle at least the next one.

## Main results

* `Tariff.Number.abs_rounded_sub_le_div` — rounding moves a number by at most its `2 ^ 53`th part.
* `Tariff.Number.rounded_eq_of_near` — what is rounded to a binary number near by.
* `Tariff.Number.rounded_middle` — what is in the middle.
* `Tariff.Number.next_le_rounded`, `Tariff.Number.lt_rounded` — what is beyond the middle.
-/

set_option autoImplicit false

namespace Tariff.Number

variable {v w : ℚ} {k m : ℕ} {e n : ℤ}

/-! ### Digits and units -/

/-- A number with 53 digits before the point, counted in some unit, has no lesser unit. -/
lemma le_unit (h : 2 ^ (e + 52) ≤ v) : e ≤ unit v := by
  have hv : 0 < v := (two_zpow_pos _).trans_le h
  have hlog := (Int.zpow_le_iff_le_log (by norm_num : 1 < 2) hv).1 h
  have := le_max_left (Int.log 2 v - 52) (-1074)
  rw [unit]
  omega

/-- A number with 53 digits, counted in some unit, has that unit. -/
lemma unit_eq_of_digits (hlow : 2 ^ (52 : ℤ) * 2 ^ e ≤ v) (hhigh : v < 2 ^ (53 : ℤ) * 2 ^ e)
    (he : -1074 ≤ e) : unit v = e := by
  rw [← zpow_add₀ (by norm_num), add_comm] at hlow hhigh
  exact unit_eq hlow hhigh he

/-- Rounding does not make the unit less. -/
lemma unit_le_unit_rounded (hv : 0 < v) : unit v ≤ unit (rounded v) := by
  rcases (neg_le_unit v).eq_or_lt with hleast | hmore
  · exact hleast ▸ neg_le_unit _
  apply le_unit
  have hcount : (2 : ℚ) ^ (52 : ℤ) ≤ halfEven (v / 2 ^ unit v) := by
    exact_mod_cast two_pow_le_halfEven hv hmore
  rw [rounded, zpow_add₀ (by norm_num), mul_comm]
  exact mul_le_mul_of_nonneg_right hcount (two_zpow_pos _).le

/-- A binary number is a whole number of its units, of at most 53 digits. -/
lemma exists_digits (hv : 0 ≤ v) (h : rounded v = v) :
    ∃ k : ℕ, k < 2 ^ 53 ∧ v = k * 2 ^ unit v := by
  have hcount : v = halfEven (v / 2 ^ unit v) * 2 ^ unit v := h.symm
  have hnonneg : 0 ≤ halfEven (v / 2 ^ unit v) := by
    rw [hcount, mul_nonneg_iff_of_pos_right (two_zpow_pos _)] at hv
    exact_mod_cast hv
  obtain ⟨k, hk⟩ := Int.eq_ofNat_of_zero_le hnonneg
  rw [hk, Int.cast_natCast] at hcount
  refine ⟨k, ?_, hcount⟩
  have hlt := lt_unit v
  rw [zpow_add₀ (by norm_num), mul_comm] at hlt
  have hlt := hcount.symm.trans_lt hlt
  exact_mod_cast lt_of_mul_lt_mul_right hlt (two_zpow_pos _).le

/-- A binary number with a unit above the least one has 53 digits. -/
lemma two_pow_le_digits (hv : 0 < v) (hunit : -1074 < unit v) (h : v = k * 2 ^ unit v) :
    2 ^ 52 ≤ k := by
  have hle := unit_le hv hunit
  rw [zpow_add₀ (by norm_num), mul_comm] at hle
  have hle := hle.trans_eq h
  exact_mod_cast le_of_mul_le_mul_right hle (two_zpow_pos _)

/-- A power of two is rounded to itself. -/
lemma rounded_two_zpow (he : -1074 ≤ e) : rounded (2 ^ e) = 2 ^ e := by
  have hdigits := rounded_digits (m := 1) (by norm_num) he
  rwa [Nat.cast_one, one_mul] at hdigits

/-- What is at most a power of two stays so. -/
lemma rounded_le_two_zpow (hv : 0 ≤ v) (he : -1074 ≤ e) (h : v ≤ 2 ^ e) : rounded v ≤ 2 ^ e :=
  rounded_two_zpow he ▸ rounded_mono hv h

/-- What is at least a power of two stays so. -/
lemma two_zpow_le_rounded (he : -1074 ≤ e) (h : 2 ^ e ≤ v) : 2 ^ e ≤ rounded v :=
  rounded_two_zpow he ▸ rounded_mono (two_zpow_pos e).le h

/-- The power of two after all numbers of 53 digits is a binary number too. -/
lemma rounded_digits_of_le (hm : m ≤ 2 ^ 53) (he : -1074 ≤ e) :
    rounded (m * 2 ^ e) = m * 2 ^ e := by
  rcases hm.lt_or_eq with hlt | rfl
  · exact rounded_digits hlt he
  have hpow : ((2 ^ 53 : ℕ) : ℚ) * 2 ^ e = 2 ^ (53 + e) := by
    rw [zpow_add₀ (by norm_num)]
    norm_num
  rw [hpow, rounded_two_zpow (by omega)]

/-- From `2 ^ 52` on all binary numbers are whole. -/
lemma exists_natCast_eq_rounded (h : 2 ^ 52 ≤ rounded v) (hv : 0 ≤ v) :
    ∃ n : ℕ, rounded v = n := by
  obtain ⟨k, -, hk⟩ := exists_digits (rounded_nonneg hv) (rounded_rounded hv)
  obtain ⟨d, hd⟩ := Int.eq_ofNat_of_zero_le (le_unit (e := 0) (by simpa using h))
  refine ⟨k * 2 ^ d, ?_⟩
  rw [hk, hd]
  push_cast
  rw [zpow_natCast]

/-- **Rounding moves a number by at most its `2 ^ 53`th part**, unless its unit is the least one. -/
lemma abs_rounded_sub_le_div (hv : 0 < v) (h : -1074 < unit v) : |rounded v - v| ≤ v / 2 ^ 53 := by
  have hle := unit_le hv h
  rw [zpow_add₀ (by norm_num)] at hle
  have hmove := abs_rounded_sub_le v
  rw [le_div_iff₀ (by norm_num)]
  norm_num at hle
  linarith

/-! ### Near a binary number -/

/-- What is near a whole number is rounded to it. -/
lemma halfEven_eq_of_near {q : ℚ} (h : |q - n| < 1 / 2) : halfEven q = n := by
  have hnear := abs_lt.1 h
  have hmove := abs_le.1 (abs_halfEven_sub_le q)
  have hlow : ((n - 1 : ℤ) : ℚ) < halfEven q := by
    push_cast
    linarith
  have hhigh : (halfEven q : ℚ) < ((n + 1 : ℤ) : ℚ) := by
    push_cast
    linarith
  have hlow : n - 1 < halfEven q := by exact_mod_cast hlow
  have hhigh : halfEven q < n + 1 := by exact_mod_cast hhigh
  omega

/-- **What is near a binary number is rounded to it.**

**Proof sketch.** Either the binary number is a whole number of units, or it is below the least
number with that unit, and then by half a unit at least. -/
theorem rounded_eq_of_near (hw : 0 < w) (hv : 0 ≤ v) (hbinary : rounded v = v)
    (h : |w - v| < 2 ^ unit w / 2) : rounded w = v := by
  obtain ⟨k, hk, hdigits⟩ := exists_digits hv hbinary
  have hpos := two_zpow_pos (unit w)
  have hnear := abs_lt.1 h
  rcases le_or_gt (unit w) (unit v) with hle | hlt
  · obtain ⟨d, hd⟩ := Int.eq_ofNat_of_zero_le (sub_nonneg.2 hle)
    have hwhole : v = ((k * 2 ^ d : ℤ) : ℚ) * 2 ^ unit w := by
      have hunit : unit v = d + unit w := by omega
      nth_rewrite 1 [hdigits]
      rw [hunit, zpow_add₀ (by norm_num), zpow_natCast]
      push_cast
      ring
    have hcount : halfEven (w / 2 ^ unit w) = k * 2 ^ d := by
      apply halfEven_eq_of_near
      rw [(eq_div_iff hpos.ne').2 hwhole.symm, ← sub_div, abs_div, abs_of_pos hpos,
        div_lt_iff₀ hpos]
      linarith
    rw [rounded, hcount, ← hwhole]
  · have hleast := unit_le hw ((neg_le_unit v).trans_lt hlt)
    have hbelow : v ≤ (2 ^ 53 - 1) * 2 ^ (unit w - 1) := by
      rw [hdigits]
      have hk : (k : ℚ) ≤ 2 ^ 53 - 1 := by
        have : ((k + 1 : ℕ) : ℚ) ≤ (2 ^ 53 : ℕ) := by exact_mod_cast hk
        push_cast at this
        linarith
      refine mul_le_mul hk ?_ (two_zpow_pos _).le (by norm_num)
      exact zpow_le_zpow_right₀ (by norm_num) (by omega)
    rw [zpow_sub_one₀ (by norm_num)] at hbelow
    rw [zpow_add₀ (by norm_num)] at hleast
    norm_num at hleast hbelow
    linarith

/-! ### The middle between two binary numbers -/

/-- **In the middle between two binary numbers**, it is rounded to the one with the even digits. -/
lemma rounded_middle (hlow : 2 ^ 52 ≤ k) (hhigh : k < 2 ^ 53) (he : -1074 ≤ e) :
    rounded ((k + 1 / 2) * 2 ^ e) = (k + k % 2 : ℕ) * 2 ^ e := by
  have hpos := two_zpow_pos e
  have hlow : (2 : ℚ) ^ (52 : ℤ) ≤ k := by exact_mod_cast hlow
  have hhigh : (k : ℚ) + 1 ≤ 2 ^ (53 : ℤ) := by exact_mod_cast hhigh
  have hunit : unit ((k + 1 / 2) * 2 ^ e) = e :=
    unit_eq_of_digits (mul_le_mul_of_nonneg_right (by linarith) hpos.le)
      (mul_lt_mul_of_pos_right (by linarith) hpos) he
  have hfloor : ⌊(k + 1 / 2 : ℚ)⌋ = k := by
    rw [Int.floor_eq_iff]
    constructor <;> push_cast <;> linarith
  have heven : halfEven (k + 1 / 2) = (k + k % 2 : ℕ) := by
    rw [halfEven, hfloor, if_neg (by push_cast; linarith), if_neg (by push_cast; linarith)]
    push_cast
    rfl
  rw [rounded, hunit, mul_div_cancel_right₀ _ hpos.ne', heven, Int.cast_natCast]

/-- **Beyond the middle**, it is rounded to the next binary number or to a greater one. -/
lemma next_le_rounded (hlow : 2 ^ 52 ≤ k) (hhigh : k < 2 ^ 53) (he : -1074 ≤ e)
    (h : (k + 1 / 2) * 2 ^ e < v) : (k + 1) * 2 ^ e ≤ rounded v := by
  have hpos := two_zpow_pos e
  have hnext : rounded ((k + 1) * 2 ^ e) = (k + 1) * 2 ^ e := by
    have hdigits := rounded_digits_of_le (m := k + 1) hhigh he
    rwa [Nat.cast_add_one] at hdigits
  rcases lt_or_ge v ((k + 1) * 2 ^ e) with hlt | hge
  · have hunit : unit v = e := by
      refine unit_eq_of_digits (le_trans ?_ h.le) (hlt.trans_le ?_) he
      · have hlow : (2 : ℚ) ^ (52 : ℤ) ≤ k := by exact_mod_cast hlow
        exact mul_le_mul_of_nonneg_right (by linarith) hpos.le
      · exact mul_le_mul_of_nonneg_right (by exact_mod_cast hhigh) hpos.le
    have hmore : (k : ℤ) < halfEven (v / 2 ^ e) := by
      have hmove := (abs_le.1 (abs_halfEven_sub_le (v / 2 ^ e))).1
      have hcount : (k : ℚ) + 1 / 2 < v / 2 ^ e := (lt_div_iff₀ hpos).2 h
      have hmore : (k : ℚ) < halfEven (v / 2 ^ e) := by linarith
      exact_mod_cast hmore
    have hmore : ((k + 1 : ℤ) : ℚ) ≤ halfEven (v / 2 ^ e) := by exact_mod_cast hmore
    rw [rounded, hunit]
    exact mul_le_mul_of_nonneg_right (by exact_mod_cast hmore) hpos.le
  · exact hnext ▸ rounded_mono (by positivity) hge

/-- What is more than half a unit above a binary number is rounded to a greater one. -/
lemma lt_rounded (hv : 0 < v) (hbinary : rounded v = v) (hunit : -1074 < unit v)
    (h : v + 2 ^ unit v / 2 < w) : v < rounded w := by
  obtain ⟨k, hk, hdigits⟩ := exists_digits hv.le hbinary
  have hnext := next_le_rounded (v := w) (two_pow_le_digits hv hunit hdigits) hk hunit.le
    (by linarith)
  have hpos := two_zpow_pos (unit v)
  linarith

end Tariff.Number
