import Tariff.Proofs.Money.Rounding
import Tariff.Proofs.Number.Decimal
import Tariff.Proofs.Number.Neighbours

/-!
# Rounding what is rounded

Parts of an amount that are written as a double need not be exactly as many when they are counted
back, and what they differ by is rounded. Below `2 ^ 51` parts nothing of it is left, so that
rounding is idempotent. From there on a quarter of a part, and from `2 ^ 52` on one half, is as much
as is passed over; where the double has more parts than that, rounding it again gives the next
double. From `2 ^ 53` parts on the double is the same again, whatever the parts are.

## Main definitions

* `Tariff.Money.Overshoots` — parts whose double is rounded to more of them.
* `Tariff.Money.IsScale` — the numbers of parts that one may have.

## Main results

* `Tariff.Money.IsScale.parts_again` — parts that do not overshoot are counted again as they were.
* `Tariff.Money.IsScale.lt_rounded_again` — parts that overshoot are written as a greater double.
* `Tariff.Money.IsScale.rounded_again` — a double is the same again when it has been multiplied.
* `Tariff.Money.roundWith_again_iff` — when an amount that is rounded is left as it is.
* `Tariff.Money.rounding_again_iff` — when rounding to decimals is idempotent.
-/

set_option autoImplicit false

namespace Tariff.Money

open Tariff.Number Float.Model.UnpackedFloat

/-! ### Parts that are counted again -/

section

variable {c v : ℚ} {n : ℕ}

/-- Whether `n` parts, of which one has `c`, are written as a double that is rounded to more parts
than these: counted back, the double exceeds them by more than a quarter below `2 ^ 52`, where the
product with `c` is rounded to halves, or by more than one half below `2 ^ 53`, where it is rounded
to whole numbers. -/
def Overshoots (c : ℚ) (n : ℕ) : Prop :=
  (2 ^ 51 ≤ n ∧ n < 2 ^ 52 ∧ n + 1 / 4 < rounded (n / c) * c) ∨
    (2 ^ 52 ≤ n ∧ n < 2 ^ 53 ∧ n + 1 / 2 < rounded (n / c) * c)

/-- From `2 ^ 53` on a half that is added is lost. -/
lemma rounded_sum_of_large (h : 2 ^ 53 ≤ rounded (v * c)) (hv : 0 ≤ v * c) :
    rounded (rounded (v * c) + 1 / 2) = rounded (v * c) := by
  have hnonneg := rounded_nonneg hv
  have hunit : (1 : ℤ) ≤ unit (rounded (v * c) + 1 / 2) := by
    apply le_unit
    norm_num at h ⊢
    linarith
  have htwo : (2 : ℚ) ^ (1 : ℤ) ≤ 2 ^ unit (rounded (v * c) + 1 / 2) :=
    zpow_le_zpow_right₀ (by norm_num) hunit
  refine rounded_eq_of_near (by linarith) hnonneg (rounded_rounded hv) ?_
  rw [add_sub_cancel_left, abs_of_pos (by norm_num)]
  norm_num at htwo
  linarith

/-- From `2 ^ 53` on the parts are what the product is rounded to. -/
lemma parts_eq_rounded (h : 2 ^ 53 ≤ rounded (v * c)) (hv : 0 ≤ v * c) :
    (parts c v : ℚ) = rounded (v * c) := by
  obtain ⟨n, hn⟩ := exists_natCast_eq_rounded (by linarith) hv
  rw [parts, rounded_sum_of_large h hv, hn, Nat.floor_natCast]

/-- From `2 ^ 52` parts on the last step of the rounding is a whole number. -/
lemma parts_eq_sum (h : 2 ^ 52 ≤ parts c v) (hv : 0 ≤ v * c) :
    (parts c v : ℚ) = rounded (rounded (v * c) + 1 / 2) := by
  have hreach := (le_parts_iff (by omega)).1 h
  obtain ⟨n, hn⟩ := exists_natCast_eq_rounded (v := rounded (v * c) + 1 / 2)
    (by push_cast at hreach; linarith) (by linarith [rounded_nonneg hv])
  rw [parts, hn, Nat.floor_natCast]

/-- Parts can be written as a double if they are not divided. -/
lemma rounded_parts (hv : 0 ≤ v * c) : rounded (parts c v) = parts c v := by
  rcases Nat.lt_or_ge (parts c v) (2 ^ 53) with hlt | hge
  · exact rounded_natCast hlt
  · rw [parts_eq_sum (by omega) hv]
    exact rounded_rounded (by linarith [rounded_nonneg hv])

/-- A half that is added to a whole number is rounded to the even one of the two around it. -/
lemma rounded_add_half (hlow : 2 ^ 52 ≤ n) (hhigh : n < 2 ^ 53) :
    rounded (n + 1 / 2) = (n + n % 2 : ℕ) := by
  simpa using rounded_middle hlow hhigh (show (-1074 : ℤ) ≤ 0 by decide)

/-- A half that is added to an even number is lost. -/
lemma rounded_add_half_of_even (hlow : 2 ^ 52 ≤ n) (hhigh : n < 2 ^ 53) (heven : n % 2 = 0) :
    rounded (n + 1 / 2) = n := by
  rw [rounded_add_half hlow hhigh, heven, Nat.add_zero]

/-- From `2 ^ 52` on the number of parts is even. -/
lemma even_parts (hlow : 2 ^ 52 ≤ parts c v) (hhigh : parts c v < 2 ^ 53) (hv : 0 ≤ v * c) :
    parts c v % 2 = 0 := by
  have hsum := parts_eq_sum hlow hv
  have hnonneg := rounded_nonneg hv
  rcases lt_or_ge (rounded (v * c)) ((2 ^ 52 : ℕ) : ℚ) with hsmall | hlarge
  · have hmost : (parts c v : ℚ) ≤ (2 ^ 52 : ℕ) := by
      rw [hsum, ← rounded_add_half_of_even (n := 2 ^ 52) le_rfl (by norm_num) (by norm_num)]
      exact rounded_mono (by linarith) (by gcongr)
    have hmost : parts c v ≤ 2 ^ 52 := by exact_mod_cast hmost
    omega
  · obtain ⟨k, hk⟩ := exists_natCast_eq_rounded (by exact_mod_cast hlarge) hv
    rw [hk] at hsum hlarge
    have hlarge : 2 ^ 52 ≤ k := by exact_mod_cast hlarge
    have hlt : k < 2 ^ 53 := by
      by_contra hge
      have hwhole := parts_eq_rounded (v := v) (c := c)
        (by rw [hk]; exact_mod_cast not_lt.1 hge) hv
      rw [hk] at hwhole
      have hwhole : parts c v = k := by exact_mod_cast hwhole
      omega
    rw [rounded_add_half hlarge hlt] at hsum
    have hsum : parts c v = k + k % 2 := by exact_mod_cast hsum
    omega

/-! ### Near a number of parts -/

/-- There are no more parts than the product is rounded to, if a half is not rounded up to one. -/
lemma parts_le_of_rounded_le (hv : 0 ≤ v * c) (h : rounded (v * c) ≤ n)
    (hhalf : rounded (n + 1 / 2) < n + 1) : parts c v ≤ n := by
  have hmono := rounded_mono (by linarith [rounded_nonneg hv])
    (show rounded (v * c) + 1 / 2 ≤ n + 1 / 2 by linarith)
  rw [← Nat.lt_succ_iff, parts, Nat.floor_lt' n.succ_ne_zero]
  push_cast
  linarith

/-- Below `2 ^ 52`, what is at most a quarter above a number of parts has no more. -/
lemma parts_le_of_quarter (hv : 0 ≤ v * c) (hlow : 2 ^ 51 ≤ n) (hhigh : n < 2 ^ 52)
    (h : v * c ≤ n + 1 / 4) : parts c v ≤ n := by
  have hmiddle : rounded (n + 1 / 4) = n := by
    have hmiddle := rounded_middle (k := 2 * n) (e := -1) (by omega) (by omega) (by decide)
    rw [Nat.mul_mod_right] at hmiddle
    norm_num at hmiddle
    convert hmiddle using 2 <;> ring
  have hhalf : rounded (n + 1 / 2) = n + 1 / 2 := by
    have hhalf := rounded_fraction (k := 2 * n + 1) (d := 1) (by omega) (by norm_num)
    norm_num at hhalf
    convert hhalf using 2 <;> ring
  refine parts_le_of_rounded_le hv (hmiddle ▸ rounded_mono hv h) ?_
  rw [hhalf]
  linarith

/-- From `2 ^ 52` on, what is at most a half above an even number of parts has no more. -/
lemma parts_le_of_half (hv : 0 ≤ v * c) (hlow : 2 ^ 52 ≤ n) (hhigh : n < 2 ^ 53)
    (heven : n % 2 = 0) (h : v * c ≤ n + 1 / 2) : parts c v ≤ n := by
  have hhalf := rounded_add_half_of_even hlow hhigh heven
  refine parts_le_of_rounded_le hv (hhalf ▸ rounded_mono hv h) ?_
  rw [hhalf]
  linarith

/-- At `2 ^ 53`, what is at most one above it has no more parts. -/
lemma parts_le_two_pow (hv : 0 ≤ v * c) (h : v * c ≤ (2 ^ 53 : ℕ) + 1) : parts c v ≤ 2 ^ 53 := by
  have hone : rounded ((2 ^ 53 : ℕ) + 1) = (2 ^ 53 : ℕ) := by
    have hmiddle := rounded_middle (k := 2 ^ 52) (e := 1) le_rfl (by norm_num) (by decide)
    norm_num at hmiddle ⊢
    exact hmiddle
  have hhalf := rounded_mono (v := (2 ^ 53 : ℕ) + 1 / 2) (by positivity)
    (show ((2 ^ 53 : ℕ) : ℚ) + 1 / 2 ≤ (2 ^ 53 : ℕ) + 1 by linarith)
  rw [hone] at hhalf
  exact parts_le_of_rounded_le hv (hone ▸ rounded_mono hv h) (hhalf.trans_lt (lt_add_one _))

/-- Between `2 ^ 52` and `2 ^ 53`, what is at most one below an even number of parts has no less. -/
lemma le_parts_of_even (hlow : 2 ^ 52 < n) (hhigh : n ≤ 2 ^ 53) (heven : n % 2 = 0)
    (h : n - 1 ≤ v * c) : n ≤ parts c v := by
  obtain ⟨k, rfl⟩ : ∃ k, n = k + 1 := ⟨n - 1, by omega⟩
  have hwhole : (k : ℚ) ≤ rounded (v * c) := by
    rw [← rounded_natCast (n := k) (by omega)]
    refine rounded_mono (by positivity) ?_
    push_cast at h
    linarith
  have hodd : k + k % 2 = k + 1 := by omega
  rw [le_parts_iff k.succ_ne_zero, Nat.succ_eq_add_one, ← hodd,
    ← rounded_add_half (by omega) (by omega)]
  exact rounded_mono (by positivity) (by linarith)

/-! ### Parts that are written as a double -/

/-- The numbers of parts that one may have: binary numbers from `2 ^ (-50)` to `2 ^ 50`. -/
structure IsScale (c : ℚ) : Prop where
  /-- it is a binary number -/
  rounded_eq : rounded c = c
  /-- it is not too small -/
  le : 2 ^ (-50 : ℤ) ≤ c
  /-- it is not too large -/
  ge : c ≤ 2 ^ (50 : ℤ)

/-- A scale is positive. -/
lemma IsScale.pos (hc : IsScale c) : 0 < c :=
  (two_zpow_pos (-50)).trans_le hc.le

/-- Some parts are not too small to have 53 digits. -/
lemma IsScale.le_quotient (hc : IsScale c) (hn : 0 < n) : 2 ^ (-50 : ℤ) ≤ n / c := by
  have hone : (1 : ℚ) ≤ n := by exact_mod_cast hn
  rw [zpow_neg, ← one_div]
  exact div_le_div₀ (by positivity) hone hc.pos hc.ge

/-- So is the double that they are written as. -/
lemma IsScale.le_rounded_quotient (hc : IsScale c) (hn : 0 < n) :
    2 ^ (-50 : ℤ) ≤ rounded (n / c) :=
  two_zpow_le_rounded (by decide) (hc.le_quotient hn)

/-- A double that some parts are written as has as many parts, up to the `2 ^ 53`th part of them. -/
lemma IsScale.abs_sub_le (hc : IsScale c) (n : ℕ) : |rounded (n / c) * c - n| ≤ n / 2 ^ 53 := by
  rcases Nat.eq_zero_or_pos n with rfl | hn
  · simp
  have hpos := hc.pos
  have hquotient := hc.le_quotient hn
  have hunit : -102 ≤ unit (n / c) := le_unit hquotient
  have hmove := abs_rounded_sub_le_div ((two_zpow_pos _).trans_le hquotient)
    (show -1074 < unit (n / c) by omega)
  have hparts : rounded (n / c) * c - n = (rounded (n / c) - n / c) * c := by
    rw [sub_mul, div_mul_cancel₀ _ hpos.ne']
  rw [hparts, abs_mul, abs_of_pos hpos]
  calc
    |rounded (n / c) - n / c| * c ≤ n / c / 2 ^ 53 * c := mul_le_mul_of_nonneg_right hmove hpos.le
    _ = n / 2 ^ 53 := by
      rw [div_right_comm, div_mul_cancel₀ _ hpos.ne']

/-- A double that parts are written as is not negative. -/
lemma IsScale.product_nonneg (hc : IsScale c) (n : ℕ) : 0 ≤ rounded (n / c) * c := by
  have hpos := hc.pos
  exact mul_nonneg (rounded_nonneg (by positivity)) hpos.le

/-- **Up to `2 ^ 53`, parts that are counted again are as many**, unless they overshoot.

**Proof sketch.** The double has at most a `2 ^ 53`th part more or less. Where a quarter, a half or
one is more than that, it is also more than what the count passes over. -/
lemma IsScale.parts_again (hc : IsScale c) (hn : n ≤ 2 ^ 53) (heven : 2 ^ 52 ≤ n → n % 2 = 0)
    (h : ¬Overshoots c n) : parts c (rounded (n / c)) = n := by
  have hnonneg := hc.product_nonneg n
  have hnear := abs_le.1 (hc.abs_sub_le n)
  simp only [Overshoots, not_or, not_and, not_lt] at h
  obtain ⟨hquarter, hhalf⟩ := h
  apply le_antisymm
  · rcases Nat.lt_or_ge n (2 ^ 51) with hsmall | hmiddle
    · have hless : (n : ℚ) + 1 ≤ 2 ^ 51 := by exact_mod_cast hsmall
      exact parts_le hnonneg (by omega) (by linarith)
    rcases Nat.lt_or_ge n (2 ^ 52) with hless | hmore
    · exact parts_le_of_quarter hnonneg hmiddle hless (hquarter hmiddle hless)
    rcases hn.lt_or_eq with hlt | rfl
    · exact parts_le_of_half hnonneg hmore hlt (heven hmore) (hhalf hmore hlt)
    · refine parts_le_two_pow hnonneg ?_
      norm_num at hnear ⊢
      linarith
  · rcases Nat.lt_or_ge (2 ^ 52) n with hmore | hless
    · have hmost : (n : ℚ) ≤ 2 ^ 53 := by exact_mod_cast hn
      exact le_parts_of_even hmore hn (heven hmore.le) (by linarith)
    · have hmost : (n : ℚ) ≤ 2 ^ 52 := by exact_mod_cast hless
      exact le_parts hless (by linarith)

/-- Parts that overshoot are counted again as more: as one more below `2 ^ 52`, and as two more from
there on. -/
lemma le_parts_of_overshoots (heven : 2 ^ 52 ≤ n → n % 2 = 0) (h : Overshoots c n) :
    (n < 2 ^ 52 ∧ n + 1 ≤ parts c (rounded (n / c))) ∨
      (n < 2 ^ 53 ∧ n + 2 ≤ parts c (rounded (n / c))) := by
  rcases h with ⟨hlow, hhigh, hmore⟩ | ⟨hlow, hhigh, hmore⟩
  · refine .inl ⟨hhigh, (le_parts_iff n.succ_ne_zero).2 ?_⟩
    have hnext := next_le_rounded (k := 2 * n) (e := -1) (v := rounded (n / c) * c) (by omega)
      (by omega) (by decide) (by norm_num; linarith)
    rw [← rounded_natCast (n := n + 1) (by omega)]
    refine rounded_mono (by positivity) ?_
    norm_num at hnext ⊢
    linarith
  · refine .inr ⟨hhigh, (le_parts_iff (by omega)).2 ?_⟩
    have hnext := next_le_rounded (e := 0) hlow hhigh (by decide) (by simpa using hmore)
    have heven := heven hlow
    have hodd : n + 1 + (n + 1) % 2 = n + 2 := by omega
    rw [← hodd, ← rounded_add_half (by omega) (by omega)]
    refine rounded_mono (by positivity) ?_
    norm_num at hnext ⊢
    linarith

/-- **Parts that overshoot are written as a greater double** when they are counted again.

**Proof sketch.** The distance of the doubles around is less than what the count adds, so one of
them is in between. -/
lemma IsScale.lt_rounded_again (hc : IsScale c) (heven : 2 ^ 52 ≤ n → n % 2 = 0)
    (h : Overshoots c n) : rounded (n / c) < rounded (parts c (rounded (n / c)) / c) := by
  have hpos := hc.pos
  have hn : 0 < n := by
    rcases h with h | h <;> omega
  have hnear := abs_le.1 (hc.abs_sub_le n)
  have hleast := hc.le_rounded_quotient hn
  have hy := (two_zpow_pos _).trans_le hleast
  have hunit : -102 ≤ unit (rounded (n / c)) := le_unit hleast
  have hunit : -1074 < unit (rounded (n / c)) := by omega
  have hdistance := unit_le hy hunit
  rw [zpow_add₀ (by norm_num)] at hdistance
  refine lt_rounded hy (rounded_rounded (by positivity)) hunit ?_
  rw [lt_div_iff₀ hpos]
  have hdistance := mul_le_mul_of_nonneg_right hdistance hpos.le
  rcases le_parts_of_overshoots heven h with ⟨hless, hparts⟩ | ⟨hless, hparts⟩
  · have hless : (n : ℚ) + 1 ≤ 2 ^ 52 := by exact_mod_cast hless
    have hparts : (n : ℚ) + 1 ≤ parts c (rounded (n / c)) := by exact_mod_cast hparts
    norm_num at hdistance
    linarith
  · have hless : (n : ℚ) + 1 ≤ 2 ^ 53 := by exact_mod_cast hless
    have hparts : (n : ℚ) + 2 ≤ parts c (rounded (n / c)) := by exact_mod_cast hparts
    norm_num at hdistance
    linarith

/-! ### Doubles that are multiplied and divided -/

variable {y : ℚ}

/-- A double whose product is a binary number is got back from it. -/
lemma rounded_quotient_of_digits {k : ℕ} {e : ℤ} (hpos : 0 < c) (hy : rounded y = y)
    (hk : k < 2 ^ 53) (he : -1074 ≤ e) (h : y * c = k * 2 ^ e) :
    rounded (rounded (y * c) / c) = y := by
  rw [h, rounded_digits hk he, ← h, mul_div_cancel_right₀ _ hpos.ne', hy]

/-- The product of a power of two is a binary number. -/
lemma IsScale.rounded_quotient_of_two_zpow (hc : IsScale c) (hy : rounded y = y)
    (hleast : 2 ^ (-50 : ℤ) ≤ y) (h : y = (2 ^ 52 : ℕ) * 2 ^ unit y) :
    rounded (rounded (y * c) / c) = y := by
  obtain ⟨j, hj, hscale⟩ := exists_digits hc.pos.le hc.rounded_eq
  have hunit : -102 ≤ unit c := le_unit hc.le
  have hunit' : -102 ≤ unit y := le_unit hleast
  refine rounded_quotient_of_digits hc.pos hy hj (show -1074 ≤ unit c + (unit y + 52) by omega) ?_
  nth_rewrite 1 [h, hscale]
  rw [zpow_add₀ (by norm_num), zpow_add₀ (by norm_num)]
  push_cast
  ring

/-- A double is got back from its product if the product is rounded by less, in parts, than the
double would be.

**Proof sketch.** What the product is divided to is near the double. It has no lesser unit, unless
the double is a power of two. -/
lemma IsScale.rounded_quotient_of_finer (hc : IsScale c) (hy : rounded y = y)
    (hleast : 2 ^ (-50 : ℤ) ≤ y) (h : 2 ^ unit (y * c) < 2 ^ unit y * c) :
    rounded (rounded (y * c) / c) = y := by
  have hpos := hc.pos
  have hpositive : 0 < y := (two_zpow_pos _).trans_le hleast
  have hunit : -102 ≤ unit y := le_unit hleast
  obtain ⟨k, -, hdigits⟩ := exists_digits hpositive.le hy
  by_cases hpower : k = 2 ^ 52
  · exact hc.rounded_quotient_of_two_zpow hy hleast (hpower ▸ hdigits)
  have hfull := two_pow_le_digits hpositive (by omega) hdigits
  have habove : (2 ^ 52 + 1) * 2 ^ unit y ≤ y := by
    have hdigit : ((2 ^ 52 + 1 : ℕ) : ℚ) ≤ k := by exact_mod_cast (by omega : 2 ^ 52 + 1 ≤ k)
    have hvalue := mul_le_mul_of_nonneg_right hdigit (two_zpow_pos (unit y)).le
    rw [← hdigits] at hvalue
    exact_mod_cast hvalue
  have hnear : |rounded (y * c) / c - y| < 2 ^ unit y / 2 := by
    have hproduct := abs_rounded_sub_le (y * c)
    have hparts : rounded (y * c) / c - y = (rounded (y * c) - y * c) / c := by
      rw [sub_div, mul_div_cancel_right₀ _ hpos.ne']
    rw [hparts, abs_div, abs_of_pos hpos, div_lt_iff₀ hpos]
    linarith
  have hbelow := (abs_lt.1 hnear).1
  have hunits : (2 : ℚ) ^ unit y ≤ 2 ^ unit (rounded (y * c) / c) := by
    refine zpow_le_zpow_right₀ (by norm_num) (le_unit ?_)
    rw [add_comm, zpow_add₀ (by norm_num)]
    norm_num at habove ⊢
    linarith
  have hquotient : 0 < rounded (y * c) / c := by
    have := two_zpow_pos (unit y)
    norm_num at habove
    linarith
  exact rounded_eq_of_near hquotient hpositive.le hy (by linarith)

/-- Parts that are a binary number are got back from the double they are written as, if its product
is rounded by more, in parts, than the double was.

**Proof sketch.** The product is near the parts. -/
lemma IsScale.rounded_product_of_coarser (hc : IsScale c) (hn : 0 < n) (hbinary : rounded n = n)
    (h : 2 ^ unit (rounded (n / c)) * c < 2 ^ unit (rounded (n / c) * c)) :
    rounded (rounded (n / c) * c) = n := by
  have hpos := hc.pos
  have hleast := hc.le_rounded_quotient hn
  have hquotient : (0 : ℚ) < n / c := (two_zpow_pos _).trans_le (hc.le_quotient hn)
  have hmove := abs_rounded_sub_le (n / c)
  have hunits : (2 : ℚ) ^ unit (n / c) ≤ 2 ^ unit (rounded (n / c)) :=
    zpow_le_zpow_right₀ (by norm_num) (unit_le_unit_rounded hquotient)
  generalize rounded (n / c) = y at *
  have hy : 0 < y := (two_zpow_pos _).trans_le hleast
  refine rounded_eq_of_near (mul_pos hy hpos) (Nat.cast_nonneg n) hbinary ?_
  have hparts : y * c - n = (y - n / c) * c := by
    rw [sub_mul, div_mul_cancel₀ _ hpos.ne']
  rw [hparts, abs_mul, abs_of_pos hpos]
  calc
    |y - n / c| * c ≤ 2 ^ unit y / 2 * c :=
      mul_le_mul_of_nonneg_right (hmove.trans (div_le_div_of_nonneg_right hunits (by norm_num)))
        hpos.le
    _ < 2 ^ unit (y * c) / 2 := by linarith

/-- **Parts that are a binary number are written as the same double** when their double has been
multiplied again.

**Proof sketch.** Compare what a unit of the double is in parts with the unit of the product. If the
unit of the product is less, the double is got back; if it is greater, the parts are. If the two are
equal, the product is not rounded at all. -/
lemma IsScale.rounded_again (hc : IsScale c) (hn : 0 < n) (hbinary : rounded n = n) :
    rounded (rounded (rounded (n / c) * c) / c) = rounded (n / c) := by
  have hleast := hc.le_rounded_quotient hn
  have hy := rounded_rounded ((two_zpow_pos _).trans_le (hc.le_quotient hn)).le
  rcases lt_trichotomy ((2 : ℚ) ^ unit (rounded (n / c) * c)) (2 ^ unit (rounded (n / c)) * c)
    with hfiner | hequal | hcoarser
  · exact hc.rounded_quotient_of_finer hy hleast hfiner
  · obtain ⟨k, hk, hdigits⟩ := exists_digits ((two_zpow_pos _).trans_le hleast).le hy
    refine rounded_quotient_of_digits hc.pos hy hk (neg_le_unit (rounded (n / c) * c)) ?_
    rw [hequal, ← mul_assoc, ← hdigits]
  · rw [hc.rounded_product_of_coarser hn hbinary hcoarser]

/-! ### Rounding the parts again -/

/-- More than `2 ^ 53` parts are still `2 ^ 53` when their double is multiplied again. -/
lemma IsScale.two_pow_le_rounded_product (hc : IsScale c) (hn : 2 ^ 53 < n) :
    2 ^ 53 ≤ rounded (rounded (n / c) * c) := by
  have hlarge : (2 : ℚ) ^ 53 + 1 ≤ n := by exact_mod_cast hn
  have hmiddle := rounded_add_half (n := 2 ^ 53 - 1) (by norm_num) (by norm_num)
  have hnear := (abs_le.1 (hc.abs_sub_le n)).1
  norm_num at hmiddle ⊢
  rw [← hmiddle]
  exact rounded_mono (by norm_num) (by linarith)

/-- **Rounding again does not change the double iff the parts do not overshoot.** -/
theorem IsScale.rounded_parts_again_iff (hc : IsScale c) (hv : 0 ≤ v * c) :
    rounded (parts c (rounded (parts c v / c)) / c) = rounded (parts c v / c) ↔
      ¬Overshoots c (parts c v) := by
  have hbinary := rounded_parts hv
  have heven : 2 ^ 52 ≤ parts c v → parts c v < 2 ^ 53 → parts c v % 2 = 0 := fun hlow hhigh =>
    even_parts hlow hhigh hv
  generalize parts c v = n at *
  constructor
  · intro hsame hover
    refine (hc.lt_rounded_again (fun hlow => heven hlow ?_) hover).ne' hsame
    rcases hover with h | h <;> omega
  · intro hover
    rcases Nat.lt_or_ge (2 ^ 53) n with hlarge | hsmall
    · rw [parts_eq_rounded (hc.two_pow_le_rounded_product hlarge) (hc.product_nonneg n),
        hc.rounded_again (by omega) hbinary]
    · rw [hc.parts_again hsmall (fun hlow => ?_) hover]
      rcases hsmall.lt_or_eq with hlt | rfl
      · exact heven hlow hlt
      · norm_num

end

/-! ### Amounts that are rounded again -/

section

variable {scale x : Float} {s : Sign} {c v : ℚ} {n : ℕ}

/-- What is too large to be scaled is left as it is. -/
lemma roundWith_of_not_finite_mul (h : (x.abs * scale).isFinite = false) :
    roundWith scale x = x := by
  rw [roundWith]
  simp [h]

/-- A half can be added to what is within range. -/
lemma rounded_sum_lt (hv : 0 ≤ v * c) (h : rounded (v * c) < 2 ^ (1024 : ℤ)) :
    rounded (rounded (v * c) + 1 / 2) < 2 ^ (1024 : ℤ) := by
  rcases lt_or_ge (rounded (v * c)) (2 ^ 53) with hsmall | hlarge
  · have hsum : rounded (v * c) + 1 / 2 ≤ 2 ^ (54 : ℤ) := by
      norm_num at hsmall ⊢
      linarith
    refine (rounded_le_two_zpow (by linarith [rounded_nonneg hv]) (by decide) hsum).trans_lt ?_
    exact zpow_lt_zpow_right₀ (by norm_num) (by norm_num)
  · exact (rounded_sum_of_large hlarge hv).trans_lt h

/-- **An amount that can be scaled is rounded to parts.** -/
lemma roundWith_eq_of_lt (hc : IsNumber .positive c scale) (hpos : 0 < c) (hx : IsNumber s v x)
    (h : rounded (v * c) < 2 ^ (1024 : ℤ)) :
    roundWith scale x = withSign (Float.ofNat (parts c v) / scale) x + 0.0 := by
  have hnonneg : 0 ≤ v * c := mul_nonneg hx.nonneg hpos.le
  have hscaled := hx.abs.mul hc h
  have hhalf := hscaled.add isNumber_half (rounded_sum_lt hnonneg h)
  have hparts : (floor? (x.abs * scale + 0.5)).getD 0 = parts c v := by
    rw [hhalf.floor?_eq, Option.getD_some, parts, Int.natCast_floor_eq_floor]
    exact hhalf.nonneg
  have hscale : (scale == 0.0) = false := by
    rw [Bool.eq_false_iff, ne_eq, hc.beq_iff isNumber_zero]
    exact hpos.ne'
  simp only [roundWith, hx.isFinite, hscaled.isFinite, hscale, hparts]
  rfl

/-- The parts of an amount that can be scaled are within range. -/
lemma isNumber_parts (hv : 0 ≤ v * c) (h : rounded (v * c) < 2 ^ (1024 : ℤ)) :
    IsNumber .positive (parts c v) (Float.ofNat (parts c v)) := by
  have hrange : (parts c v : ℚ) < 2 ^ (1024 : ℤ) := by
    have hsum := rounded_sum_lt hv h
    have hfloor := Nat.floor_le (rounded_nonneg (v := rounded (v * c) + 1 / 2)
      (by linarith [rounded_nonneg hv]))
    exact hfloor.trans_lt hsum
  have hnumber := isNumber_ofNat (n := parts c v)
  rw [rounded_parts hv] at hnumber
  exact hnumber hrange

/-- The quotient of an amount's parts, with its sign, is a number if it is within range. -/
lemma isNumber_quotient (hc : IsNumber .positive c scale) (hpos : 0 < c) (hx : IsNumber s v x)
    (h : rounded (v * c) < 2 ^ (1024 : ℤ)) (hq : rounded (parts c v / c) < 2 ^ (1024 : ℤ)) :
    IsNumber s (rounded (parts c v / c)) (withSign (Float.ofNat (parts c v) / scale) x) :=
  IsNumber.withSign ((isNumber_parts (mul_nonneg hx.nonneg hpos.le) h).div hc hpos.ne' hq) hx

/-- An amount that can be scaled, and whose parts are within range, is rounded to a number. It has
the sign of the amount unless it is zero. -/
lemma isNumber_roundWith_of_lt (hc : IsNumber .positive c scale) (hscale : IsScale c)
    (hx : IsNumber s v x) (h : rounded (v * c) < 2 ^ (1024 : ℤ))
    (hq : rounded (parts c v / c) < 2 ^ (1024 : ℤ)) :
    IsNumber (if parts c v = 0 then .positive else s) (rounded (parts c v / c))
      (roundWith scale x) := by
  have hsigned := isNumber_quotient hc hscale.pos hx h hq
  rw [roundWith_eq_of_lt hc hscale.pos hx h]
  split
  · next hzero =>
    rw [hzero, Nat.cast_zero, zero_div, rounded_zero] at hsigned ⊢
    exact hsigned.zero_add_zero
  · next hsome =>
    have hleast := hscale.le_rounded_quotient (Nat.pos_of_ne_zero hsome)
    exact hsigned.add_zero ((two_zpow_pos _).trans_le hleast).ne'

/-- A rounded amount is not finite if its parts are out of range. -/
lemma not_isFinite_roundWith (hc : IsNumber .positive c scale) (hpos : 0 < c)
    (hx : IsNumber s v x) (h : rounded (v * c) < 2 ^ (1024 : ℤ))
    (hq : ¬rounded (parts c v / c) < 2 ^ (1024 : ℤ)) : (roundWith scale x).isFinite = false := by
  have hparts := isNumber_parts (mul_nonneg hx.nonneg hpos.le) h
  rw [roundWith_eq_of_lt hc hpos hx h, Bool.eq_false_iff]
  intro hfinite
  rw [← hparts.isFinite_div_iff hc hpos.ne'] at hq
  exact hq (isFinite_withSign_iff.1 (isFinite_of_add_zero hfinite))

/-- What is at most a power of two far below the range is within range when it is rounded. -/
lemma rounded_lt_of_le (hv : 0 ≤ v) (h : v ≤ 2 ^ (103 : ℤ)) : rounded v < 2 ^ (1024 : ℤ) :=
  (rounded_le_two_zpow hv (by decide) h).trans_lt
    (zpow_lt_zpow_right₀ (by norm_num) (by norm_num))

/-- An amount whose parts overshoot is within range in all that is computed of it. -/
lemma Overshoots.lt (h : Overshoots c (parts c v)) (hscale : IsScale c) (hv : 0 ≤ v * c) :
    rounded (v * c) < 2 ^ (1024 : ℤ) ∧ rounded (parts c v / c) < 2 ^ (1024 : ℤ) ∧
      rounded (rounded (parts c v / c) * c) < 2 ^ (1024 : ℤ) := by
  have hpos := hscale.pos
  have hfew : parts c v < 2 ^ 53 := by
    rcases h with h | h <;> omega
  have hmost : (parts c v : ℚ) < 2 ^ 53 := by exact_mod_cast hfew
  refine ⟨lt_of_le_digits (le_of_lt ?_), rounded_lt_of_le (by positivity) ?_,
    rounded_lt_of_le (hscale.product_nonneg _) ?_⟩
  · by_contra hlarge
    rw [parts_eq_rounded (not_lt.1 hlarge) hv] at hmost
    exact hlarge hmost
  · rw [div_le_iff₀ hpos]
    calc
      (parts c v : ℚ) ≤ 2 ^ (103 : ℤ) * 2 ^ (-50 : ℤ) := by
        rw [← zpow_add₀ (by norm_num)]
        exact hmost.le.trans (by norm_num)
      _ ≤ 2 ^ (103 : ℤ) * c := mul_le_mul_of_nonneg_left hscale.le (two_zpow_pos _).le
  · have hnear := (abs_le.1 (hscale.abs_sub_le (parts c v))).2
    norm_num
    linarith

/-- **When an amount that is rounded is left as it is.** Rounding it again gives the same double
iff its parts do not overshoot.

**Proof sketch.** If the amount cannot be scaled, it is left as it is both times, and the same holds
for what it is rounded to. Otherwise the two results are made of the parts of the amount and of
those of the first result, and these are written as the same double iff they do not overshoot. -/
theorem roundWith_again_iff (hc : IsNumber .positive c scale) (hscale : IsScale c)
    (hx : IsNumber s v x) :
    roundWith scale (roundWith scale x) = roundWith scale x ↔ ¬Overshoots c (parts c v) := by
  have hpos := hscale.pos
  have hnonneg : 0 ≤ v * c := mul_nonneg hx.nonneg hpos.le
  by_cases hproduct : rounded (v * c) < 2 ^ (1024 : ℤ)
  swap
  · -- the amount cannot be scaled
    refine iff_of_true ?_ fun hover => hproduct (hover.lt hscale hnonneg).1
    rw [← hx.abs.isFinite_mul_iff hc, Bool.not_eq_true] at hproduct
    rw [roundWith_of_not_finite_mul hproduct, roundWith_of_not_finite_mul hproduct]
  by_cases hquotient : rounded (parts c v / c) < 2 ^ (1024 : ℤ)
  swap
  · -- the first result is infinite
    refine iff_of_true ?_ fun hover => hquotient (hover.lt hscale hnonneg).2.1
    exact roundWith_of_not_finite (not_isFinite_roundWith hc hpos hx hproduct hquotient)
  have hfirst := isNumber_roundWith_of_lt hc hscale hx hproduct hquotient
  by_cases hagain : rounded (rounded (parts c v / c) * c) < 2 ^ (1024 : ℤ)
  swap
  · -- the first result cannot be scaled
    refine iff_of_true ?_ fun hover => hagain (hover.lt hscale hnonneg).2.2
    rw [← hfirst.abs.isFinite_mul_iff hc, Bool.not_eq_true] at hagain
    exact roundWith_of_not_finite_mul hagain
  rw [← hscale.rounded_parts_again_iff hnonneg]
  constructor
  · intro hsame
    have hwithin : rounded (parts c (rounded (parts c v / c)) / c) < 2 ^ (1024 : ℤ) := by
      by_contra hlarge
      have hinfinite := not_isFinite_roundWith hc hpos hfirst hagain hlarge
      rw [hsame, hfirst.isFinite] at hinfinite
      exact absurd hinfinite nofun
    have hsecond := isNumber_roundWith_of_lt hc hscale hfirst hagain hwithin
    rw [hsame] at hsecond
    exact (hsecond.unique hfirst).2
  · intro hsame
    have hsecond := isNumber_quotient hc hpos hfirst hagain (hsame.trans_lt hquotient)
    have hsigned := isNumber_quotient hc hpos hx hproduct hquotient
    rw [hsame] at hsecond
    have hcongr := hsecond.add_zero_congr hsigned fun hne => ?_
    · rw [roundWith_eq_of_lt hc hpos hfirst hagain, hcongr,
        roundWith_eq_of_lt hc hpos hx hproduct]
    rw [if_neg]
    intro hzero
    rw [hzero, Nat.cast_zero, zero_div] at hne
    exact hne rounded_zero

end

/-! ### Decimals -/

section

variable {x : Float} {s : Sign} {v : ℚ} {d : ℤ} {n : ℕ} {c : ℚ}

/-- A power of ten with at most fifteen zeros, before the point or after it, is between powers of
two. -/
lemma ten_zpow_bounds (hlow : -15 ≤ d) (hhigh : d ≤ 15) :
    2 ^ (-50 : ℤ) ≤ (10 : ℚ) ^ d ∧ (10 : ℚ) ^ d ≤ 2 ^ (50 : ℤ) := by
  have hleast : (10 : ℚ) ^ (-15 : ℤ) ≤ 10 ^ d := zpow_le_zpow_right₀ (by norm_num) hlow
  have hmost : (10 : ℚ) ^ d ≤ 10 ^ (15 : ℤ) := zpow_le_zpow_right₀ (by norm_num) hhigh
  exact ⟨le_trans (by norm_num) hleast, hmost.trans (by norm_num)⟩

/-- Such a power of ten, as a double, is a scale. -/
lemma isScale_ten_zpow (hlow : -15 ≤ d) (hhigh : d ≤ 15) : IsScale (rounded (10 ^ d)) := by
  obtain ⟨hleast, hmost⟩ := ten_zpow_bounds hlow hhigh
  have hnonneg : (0 : ℚ) ≤ 10 ^ d := by positivity
  exact ⟨rounded_rounded hnonneg, two_zpow_le_rounded (by decide) hleast,
    rounded_le_two_zpow hnonneg (by decide) hmost⟩

/-- A hundred is a scale. -/
lemma isScale_hundred : IsScale 100 :=
  ⟨isNumber_hundred.rounded_eq, by norm_num, by norm_num⟩

/-- Such a power of ten is the number that it is rounded to. -/
lemma isNumber_powerOfTen (hlow : -15 ≤ d) (hhigh : d ≤ 15) :
    IsNumber .positive (rounded (10 ^ d)) (powerOfTen d) := by
  obtain ⟨u, hu, hnumber⟩ := exists_ofScientific (n := 1) (e := d) (by decide)
    (by norm_num; omega) (by omega)
  rw [Nat.cast_one, one_mul] at hnumber
  have hscale := (isScale_ten_zpow hlow hhigh).ge
  rw [powerOfTen, if_pos (by omega), hu]
  refine isNumber_of_pack hnumber (hscale.trans_lt ?_)
  exact zpow_lt_zpow_right₀ (by norm_num) (by norm_num)

/-- **An amount is rounded to decimals** of which there are at most fifteen, with their power of ten
as the scale. -/
lemma roundTo_eq (hlow : -15 ≤ d) (hhigh : d ≤ 15) (x : Float) :
    roundTo x d = .ok (roundWith (powerOfTen d) x) := by
  by_cases hfinite : x.isFinite = true
  · have hdigits : (Float.ofInt d).isFinite = true :=
      isFinite_ofInt (m := d.natAbs) (k := 0) (by simp) (by omega) (by decide)
    have hscale := (isNumber_powerOfTen hlow hhigh).isFinite
    simp [roundTo, ofInt?, hfinite, hdigits, hscale]
  · rw [Bool.not_eq_true] at hfinite
    rw [roundWith_of_not_finite hfinite, roundTo, hfinite]
    rfl

/-- Fewer than `2 ^ 51` parts do not overshoot. -/
lemma not_overshoots_of_lt (h : n < 2 ^ 51) : ¬Overshoots c n := by
  rintro (hover | hover) <;> omega

/-- **When rounding is idempotent.** Cents that are rounded to cents again are the same double iff
they do not overshoot. The same holds for rounding to any number of decimals from -15 to 15, which
always succeeds. -/
theorem rounding_again_iff (hx : IsNumber s v x) :
    (toCents (toCents x) = toCents x ↔ ¬Overshoots 100 (parts 100 v)) ∧
    ∀ d : ℤ, -15 ≤ d → d ≤ 15 → ∃ y, roundTo x d = .ok y ∧
      (roundTo y d = .ok y ↔ ¬Overshoots (rounded (10 ^ d)) (parts (rounded (10 ^ d)) v)) := by
  constructor
  · exact roundWith_again_iff isNumber_hundred isScale_hundred hx
  · intro d hlow hhigh
    refine ⟨_, roundTo_eq hlow hhigh x, ?_⟩
    rw [roundTo_eq hlow hhigh, Except.ok.injEq]
    exact roundWith_again_iff (isNumber_powerOfTen hlow hhigh) (isScale_ten_zpow hlow hhigh) hx

/-- An amount of 1.25 is left as it is by both. -/
theorem rounding_again_oneAndAQuarter : IsNumber .positive (5 / 4) 1.25 ∧
    toCents (toCents 1.25) = toCents 1.25 ∧
      ∃ y, roundTo 1.25 (-2) = .ok y ∧ roundTo y (-2) = .ok y := by
  have hunpack : (1.25 : Float).toModel.unpack =
    .finite .positive 0x14000000000000 (-52) (by decide) := rfl
  have hx : IsNumber .positive (5 / 4) 1.25 :=
    isNumber_of_unpack hunpack ⟨by decide, by decide, .inr (by decide)⟩ (by norm_num)
  obtain ⟨hcents, hdecimals⟩ := rounding_again_iff hx
  obtain ⟨y, hy, hagain⟩ := hdecimals (-2) (by decide) (by decide)
  refine ⟨hx, hcents.2 (not_overshoots_of_lt ?_), y, hy, hagain.2 (not_overshoots_of_lt ?_)⟩
  · have hfew : parts 100 (5 / 4) ≤ 125 := parts_le (by norm_num) (by norm_num) (by norm_num)
    omega
  · have hscale : rounded (10 ^ (-2 : ℤ)) ≤ 2 ^ (0 : ℤ) :=
      rounded_le_two_zpow (by norm_num) (by decide) (by norm_num)
    have hnonneg : 0 ≤ rounded (10 ^ (-2 : ℤ)) := rounded_nonneg (by norm_num)
    rw [zpow_zero] at hscale
    generalize rounded (10 ^ (-2 : ℤ)) = c at *
    have hfew : parts c (5 / 4) ≤ 2 :=
      parts_le (by linarith) (by norm_num) (by push_cast; linarith)
    omega

/-- Near `2 ^ 45`, cents that are rounded to cents again may become one cent more: an amount of
35184372088832.016 is rounded to .02, which as a double is rounded to .03. -/
theorem toCents_toCents_ne :
    toCents (toCents 35184372088832.016) ≠ toCents 35184372088832.016 := by
  decide +kernel

end

end Tariff.Money
