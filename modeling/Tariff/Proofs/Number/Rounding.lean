import Tariff.Proofs.Number.Nearest
import Tariff.Proofs.Number.Range

/-!
# Rounding of doubles that are taken apart

An operation on doubles is computed exactly on their digits, and the result is rounded: digits are
dropped until 53 are left, and two bits keep where the number lies between the digits that are left
and the next ones. What comes out is the nearest binary number.

## Main definitions

* `Tariff.Number.Represents` — the digits that are left of a number, with the two bits.
* `Tariff.Number.IsCanonical` — the digits and the exponent that a binary number is written with.
* `Tariff.Number.IsNumberApart` — a double that is taken apart, by its sign and its magnitude.

## Main results

* `Tariff.Number.Represents.roundedMantissa` — the two bits decide how the digits are rounded.
* `Tariff.Number.isNumberApart_roundWithAccuracy` — rounding gives the nearest binary number.
* `Tariff.Number.IsNumberApart.mul`, `Tariff.Number.IsNumberApart.div`,
  `Tariff.Number.IsNumberApart.add` — the operations give the one nearest to the exact result.
-/

set_option autoImplicit false

namespace Tariff.Number

open Float.Model Float.Model.UnpackedFloat

/-! ### Dropping digits -/

section

variable {em : ExtendedMantissa} {q : ℚ} {m n : ℕ}

/-- The digits that are left of a number, with two bits for where the number lies after them: the
first says whether one half or more was dropped, and the second whether more was dropped than the
first one says. -/
def Represents (em : ExtendedMantissa) (q : ℚ) : Prop :=
  match em.roundBit, em.stickyBit with
  | false, false => q = em.mantissa
  | false, true => em.mantissa < q ∧ q < em.mantissa + 1 / 2
  | true, false => q = em.mantissa + 1 / 2
  | true, true => em.mantissa + 1 / 2 < q ∧ q < em.mantissa + 1

/-- What is left is the whole part. -/
lemma Represents.floor_eq (h : Represents em q) : ⌊q⌋ = (em.mantissa : ℤ) := by
  obtain ⟨digits, round, sticky⟩ := em
  rw [Int.floor_eq_iff]
  cases round <;> cases sticky <;> simp only [Represents] at h <;> push_cast <;> constructor <;>
    linarith

/-- **The two bits decide how the digits are rounded.** -/
lemma Represents.roundedMantissa (h : Represents em q) :
    (em.roundedMantissa : ℤ) = halfEven q := by
  have hfloor := h.floor_eq
  have hcast : (⌊q⌋ : ℚ) = em.mantissa := by exact_mod_cast hfloor
  obtain ⟨digits, round, sticky⟩ := em
  rw [halfEven, hcast, hfloor, ExtendedMantissa.roundedMantissa]
  cases round <;> cases sticky <;>
    simp only [Represents] at h <;>
    simp only [ExtendedMantissa.accuracy, Accuracy.roundToNearestEven]
  · rw [if_pos (by linarith)]
  · rw [if_pos (by linarith)]
  · rw [if_neg (by linarith), if_neg (by linarith)]
    push_cast
    rfl
  · rw [if_neg (by linarith), if_pos (by linarith)]
    push_cast
    rfl

/-- One more digit is dropped: it becomes the first bit, and the first bit goes into the second. -/
lemma Represents.shiftRightOne (h : Represents em q) : Represents em.shiftRightOne (q / 2) := by
  obtain ⟨digits, round, sticky⟩ := em
  obtain ⟨k, hk | hk⟩ := Nat.even_or_odd' digits
  · have hdigits : digits / 2 = k := by omega
    have hbit : (digits % 2 != 0) = false := by simp [hk]
    have hcast : (digits : ℚ) = 2 * k := by exact_mod_cast hk
    cases round <;> cases sticky <;>
      simp only [Represents, ExtendedMantissa.shiftRightOne, hdigits, hbit, hcast, Bool.or_false,
        Bool.or_true] at h ⊢ <;>
      first | linarith | constructor <;> linarith
  · have hdigits : digits / 2 = k := by omega
    have hbit : (digits % 2 != 0) = true := by simp [hk, Nat.add_mod]
    have hcast : (digits : ℚ) = 2 * k + 1 := by exact_mod_cast hk
    cases round <;> cases sticky <;>
      simp only [Represents, ExtendedMantissa.shiftRightOne, hdigits, hbit, hcast, Bool.or_false,
        Bool.or_true] at h ⊢ <;>
      first | linarith | constructor <;> linarith

/-- Several digits are dropped. -/
lemma Represents.shiftRight (h : Represents em q) (n : ℕ) : Represents (em >>> n) (q / 2 ^ n) := by
  induction n with
  | zero =>
    rw [pow_zero, div_one]
    exact h
  | succ n ih =>
    rw [pow_succ, ← div_div]
    exact ih.shiftRightOne

/-- Nothing was dropped of a whole number. -/
lemma represents_exact (m : ℕ) : Represents (.ofMantissaAndAccuracy m .exact) m :=
  rfl

/-- What is left of a division says where the number lies after its whole part. -/
lemma represents_fraction {r : ℕ} (hr : r < n) (m : ℕ) :
    Represents (.ofMantissaAndAccuracy m (accuracyOfFraction r n)) (m + r / n) := by
  have hn : (0 : ℚ) < n := by exact_mod_cast Nat.zero_lt_of_lt hr
  have hlt : (r : ℚ) / n < 1 := (div_lt_one hn).2 (by exact_mod_cast hr)
  rw [accuracyOfFraction]
  split_ifs with hzero
  · subst hzero
    simp [Represents, ExtendedMantissa.ofMantissaAndAccuracy]
  · have hgt : (0 : ℚ) < r / n := div_pos (by exact_mod_cast Nat.pos_of_ne_zero hzero) hn
    have htwice : (r : ℚ) / n = (2 * r : ℕ) / n / 2 := by
      push_cast
      ring
    rcases hcmp : compare (2 * r) n with _ | _ | _
    · have hless : ((2 * r : ℕ) : ℚ) / n < 1 :=
        (div_lt_one hn).2 (by exact_mod_cast Nat.compare_eq_lt.1 hcmp)
      simp only [Represents, ExtendedMantissa.ofMantissaAndAccuracy]
      constructor <;> linarith
    · have hequal : ((2 * r : ℕ) : ℚ) / n = 1 := by
        rw [Nat.compare_eq_eq.1 hcmp, div_self hn.ne']
      simp only [Represents, ExtendedMantissa.ofMantissaAndAccuracy]
      linarith
    · have hmore : 1 < ((2 * r : ℕ) : ℚ) / n :=
        (one_lt_div hn).2 (by exact_mod_cast Nat.compare_eq_gt.1 hcmp)
      simp only [Represents, ExtendedMantissa.ofMantissaAndAccuracy]
      constructor <;> linarith

/-- A quotient is represented by its whole part and what the remainder says. -/
lemma represents_quotient (hn : 0 < n) :
    Represents (.ofMantissaAndAccuracy (m / n) (accuracyOfFraction (m % n) n)) (m / n) := by
  have hdivision : ((m : ℕ) : ℚ) = n * (m / n : ℕ) + (m % n : ℕ) := by
    exact_mod_cast (Nat.div_add_mod m n).symm
  have hsplit : (m : ℚ) / n = (m / n : ℕ) + (m % n : ℕ) / n := by
    have hne : (n : ℚ) ≠ 0 := by exact_mod_cast hn.ne'
    rw [hdivision, add_div, mul_div_cancel_left₀ _ hne]
  rw [hsplit]
  exact represents_fraction (Nat.mod_lt m hn) (m / n)

end

/-! ### Rounding -/

/-- The digits and the exponent that a binary number is written with: there are 53 digits, unless
the exponent is the least one. -/
structure IsCanonical (m : ℕ) (e : ℤ) : Prop where
  lt_pow : m < 2 ^ 53
  le_exponent : -1074 ≤ e
  full : e = -1074 ∨ 2 ^ 52 ≤ m

/-- A double that is taken apart is the number of a sign and a magnitude. -/
def IsNumberApart (s : Sign) (v : ℚ) : UnpackedFloat → Prop
  | .zero t => t = s ∧ v = 0
  | .finite t m e _ => t = s ∧ v = m * 2 ^ e ∧ IsCanonical m e
  | _ => False

section

variable {q v w : ℚ} {m n : ℕ} {e f : ℤ} {acc : Accuracy} {s t : Sign} {x y : UnpackedFloat}

/-- Each factor of two adds a binary digit. -/
lemma log2_mul_two_pow (hm : 0 < m) (k : Nat) : (m * 2 ^ k).log2 = m.log2 + k := by
  induction k with
  | zero => simp
  | succ k ih =>
    have hpos : 0 < m * 2 ^ k := Nat.mul_pos hm (Nat.two_pow_pos k)
    rw [Nat.pow_succ, ← Nat.mul_assoc, Nat.mul_comm _ 2,
      Nat.log2_two_mul (Nat.pos_iff_ne_zero.1 hpos), ih, Nat.add_assoc]

/-- Digits are kept as they are. -/
@[simp] lemma mantissa_ofMantissaAndAccuracy (m : ℕ) (acc : Accuracy) :
    (ExtendedMantissa.ofMantissaAndAccuracy m acc).mantissa = m := by
  rcases acc with _ | _ | _ | _ <;> rfl

/-- The first digit of a number bounds it from below. -/
lemma zpow_log2_le (hm : 0 < m) (e : ℤ) : (2 : ℚ) ^ ((m.log2 : ℤ) + e) ≤ m * 2 ^ e := by
  rw [zpow_add₀ (by norm_num), zpow_natCast]
  refine mul_le_mul_of_nonneg_right ?_ (two_zpow_pos e).le
  exact_mod_cast Nat.log2_self_le (Nat.pos_iff_ne_zero.1 hm)

/-- The first digit of a number bounds it from above. -/
lemma le_zpow_log2 (m : ℕ) (e : ℤ) : ((m : ℚ) + 1) * 2 ^ e ≤ 2 ^ ((m.log2 : ℤ) + e + 1) := by
  have hexp : (m.log2 : ℤ) + e + 1 = ((m.log2 + 1 : ℕ) : ℤ) + e := by
    push_cast
    ring
  rw [hexp, zpow_add₀ (by norm_num), zpow_natCast]
  refine mul_le_mul_of_nonneg_right ?_ (two_zpow_pos e).le
  exact_mod_cast Nat.succ_le_of_lt Nat.lt_log2_self

/-- The exponent that a number is rounded for is its unit. -/
lemma targetExponent_eq_unit (hm : 0 < m) (hle : (m : ℚ) ≤ q) (hlt : q < m + 1) :
    Format.binary64.targetExponent (totalExponent m e) = unit (q * 2 ^ e) := by
  have hv : 0 < q * 2 ^ e :=
    mul_pos (lt_of_lt_of_le (by exact_mod_cast hm) hle) (two_zpow_pos e)
  have hlow : ((2 : ℕ) : ℚ) ^ ((m.log2 : ℤ) + e) ≤ q * 2 ^ e :=
    (zpow_log2_le hm e).trans (mul_le_mul_of_nonneg_right hle (two_zpow_pos e).le)
  have hhigh : q * 2 ^ e < ((2 : ℕ) : ℚ) ^ ((m.log2 : ℤ) + e + 1) :=
    (mul_lt_mul_of_pos_right hlt (two_zpow_pos e)).trans_le (le_zpow_log2 m e)
  have hlog : Int.log 2 (q * 2 ^ e) = m.log2 + e := by
    apply le_antisymm
    · have := (Int.lt_zpow_iff_log_lt (by norm_num) hv).1 hhigh
      omega
    · exact (Int.zpow_le_iff_le_log (by norm_num) hv).1 hlow
  rw [Format.targetExponent, totalExponent, unit, hlog]
  change max ((m.log2 : ℤ) + 1 + e - 53) (-1074) = max ((m.log2 : ℤ) + e - 52) (-1074)
  congr 1
  omega

/-- A number is rounded in two shifts, the second of which makes room for a carry. -/
lemma isNumberApart_of_shifts {first second : ExtendedMantissa × ℤ}
    (hfirst : shiftToTargetExponent .binary64 m e acc = first)
    (hsecond : shiftToTargetExponent .binary64 first.1.roundedMantissa first.2 .exact = second)
    (hv : v = second.1.mantissa * 2 ^ second.2)
    (hcanonical : IsCanonical second.1.mantissa second.2) :
    IsNumberApart s v (roundWithAccuracy .binary64 s m e acc) := by
  subst hfirst hsecond
  refine of_dite (fun hzero => ⟨rfl, hv.trans ?_⟩) fun _ => ⟨rfl, hv, hcanonical⟩
  exact mul_eq_zero_of_left (by exact_mod_cast hzero) _

/-- A number is shifted by as many digits as its exponent is below the one it is rounded for. -/
lemma shiftToTargetExponent_eq {d : ℕ}
    (h : (Format.binary64.targetExponent (totalExponent m e) - e).toNat = d) :
    shiftToTargetExponent .binary64 m e acc =
      ((.ofMantissaAndAccuracy m acc : ExtendedMantissa) >>> d, e + d) := by
  simp only [shiftToTargetExponent, shiftToExponent, h]

/-- The second shift does nothing, unless there is a carry to a digit too many. -/
lemma shift_after_rounding (hm : m ≤ 2 ^ 53) (he : -1074 ≤ e) :
    shiftToTargetExponent .binary64 m e .exact = (.ofMantissaAndAccuracy m .exact, e) ∧ m < 2 ^ 53 ∨
    shiftToTargetExponent .binary64 m e .exact =
      (.ofMantissaAndAccuracy (2 ^ 52) .exact, e + 1) ∧ m = 2 ^ 53 := by
  rcases hm.lt_or_eq with hlt | rfl
  · refine .inl ⟨?_, hlt⟩
    have hlog : m.log2 < 53 := by
      rcases Nat.eq_zero_or_pos m with rfl | hpos
      · decide
      · exact (Nat.log2_lt (Nat.pos_iff_ne_zero.1 hpos)).2 hlt
    have hshift : (Format.binary64.targetExponent (totalExponent m e) - e).toNat = 0 := by
      rw [Format.targetExponent, totalExponent]
      change (max ((m.log2 : ℤ) + 1 + e - 53) (-1074) - e).toNat = 0
      omega
    rw [shiftToTargetExponent_eq hshift, Nat.cast_zero, add_zero]
    rfl
  · refine .inr ⟨?_, rfl⟩
    have hlog : Nat.log2 (2 ^ 53) = 53 := Nat.log2_two_pow
    have hshift : (Format.binary64.targetExponent (totalExponent (2 ^ 53) e) - e).toNat = 1 := by
      rw [Format.targetExponent, totalExponent, hlog]
      change (max (((53 : ℕ) : ℤ) + 1 + e - 53) (-1074) - e).toNat = 1
      omega
    rw [shiftToTargetExponent_eq hshift]
    rfl

/-- **Rounding gives the nearest binary number.** Here the digits `m` are what is left of `q`, and
none have to be added.

**Proof sketch.** The first shift counts the number in units (`Represents.shiftRight`), and the two
bits round the count to the nearest whole number (`Represents.roundedMantissa`). The second shift
does nothing but for a carry, when the count is a power of two (`shift_after_rounding`). -/
theorem isNumberApart_roundWithAccuracy (h : Represents (.ofMantissaAndAccuracy m acc) q)
    (hq : 0 < q)
    (htarget : Format.binary64.targetExponent (totalExponent m e) = unit (q * 2 ^ e))
    (he : e ≤ unit (q * 2 ^ e)) :
    IsNumberApart s (rounded (q * 2 ^ e)) (roundWithAccuracy .binary64 s m e acc) := by
  have hv : 0 < q * 2 ^ e := mul_pos hq (two_zpow_pos e)
  obtain ⟨d, hd⟩ := Int.eq_ofNat_of_zero_le (sub_nonneg.2 he)
  have hunit : unit (q * 2 ^ e) = e + d := by omega
  have hshift : (Format.binary64.targetExponent (totalExponent m e) - e).toNat = d := by omega
  have hfirst : shiftToTargetExponent .binary64 m e acc =
      ((.ofMantissaAndAccuracy m acc : ExtendedMantissa) >>> d, e + d) :=
    shiftToTargetExponent_eq hshift
  have hcount : q / 2 ^ d = q * 2 ^ e / 2 ^ unit (q * 2 ^ e) := by
    rw [hunit, zpow_add₀ (by norm_num), zpow_natCast, mul_comm q,
      mul_div_mul_left _ _ (two_zpow_pos e).ne']
  have hdigits := (h.shiftRight d).roundedMantissa
  have hle := halfEven_le_two_pow (q * 2 ^ e)
  have hfull := two_pow_le_halfEven hv
  have hlow := neg_le_unit (q * 2 ^ e)
  have hvalue : rounded (q * 2 ^ e) =
      ((.ofMantissaAndAccuracy m acc : ExtendedMantissa) >>> d).roundedMantissa *
        2 ^ (e + d : ℤ) := by
    rw [rounded, ← hcount, ← hdigits, Int.cast_natCast, hunit]
  rw [← hcount, ← hdigits] at hle hfull
  rw [hunit] at hfull hlow
  rcases shift_after_rounding (by exact_mod_cast hle) hlow with ⟨hsecond, hlt⟩ | ⟨hsecond, heq⟩
  · refine isNumberApart_of_shifts hfirst hsecond ?_ ⟨?_, hlow, ?_⟩
    · rw [hvalue, mantissa_ofMantissaAndAccuracy]
    · rwa [mantissa_ofMantissaAndAccuracy]
    · rw [mantissa_ofMantissaAndAccuracy]
      rcases hlow.eq_or_lt with hleast | hgt
      · exact .inl hleast.symm
      · exact .inr (by exact_mod_cast hfull hgt)
  · refine isNumberApart_of_shifts hfirst hsecond ?_ ⟨?_, by simp only; omega, .inr ?_⟩
    · rw [hvalue, heq, mantissa_ofMantissaAndAccuracy, zpow_add_one₀ (by norm_num)]
      push_cast
      ring
    · rw [mantissa_ofMantissaAndAccuracy]
      norm_num
    · rw [mantissa_ofMantissaAndAccuracy]

/-! ### Numbers -/

/-- A number is zero, or at least the least binary number with 53 digits of its exponent. -/
lemma IsCanonical.exponent_le (h : IsCanonical m e) (hv : (m : ℚ) * 2 ^ e < 2 ^ (f + 52)) :
    e = -1074 ∨ e < f := by
  refine h.full.imp_right fun hfull => ?_
  have hle : (2 : ℚ) ^ (52 + e) ≤ m * 2 ^ e := by
    rw [zpow_add₀ (by norm_num)]
    exact mul_le_mul_of_nonneg_right (by exact_mod_cast hfull) (two_zpow_pos e).le
  have := (zpow_lt_zpow_iff_right₀ (by norm_num : (1 : ℚ) < 2)).1 (hle.trans_lt hv)
  omega

/-- The magnitude of a number is not negative. -/
lemma IsNumberApart.nonneg (h : IsNumberApart s v x) : 0 ≤ v := by
  match x, h with
  | .zero _, ⟨_, hv⟩ => exact hv.ge
  | .finite _ m e _, ⟨_, hv, _⟩ =>
    rw [hv]
    exact mul_nonneg (Nat.cast_nonneg m) (two_zpow_pos e).le

/-- The magnitude of a number is rounded to itself. -/
lemma IsNumberApart.rounded_eq (h : IsNumberApart s v x) : rounded v = v := by
  match x, h with
  | .zero _, ⟨_, hv⟩ => rw [hv, rounded_zero]
  | .finite _ m e _, ⟨_, hv, hcanonical⟩ =>
    rw [hv, rounded_digits hcanonical.lt_pow hcanonical.le_exponent]

/-- A whole number times a power of two is rounded to the nearest binary number. -/
lemma isNumberApart_exact (hm : 0 < m)
    (he : e ≤ Format.binary64.targetExponent (totalExponent m e)) :
    IsNumberApart s (rounded (m * 2 ^ e)) (roundWithAccuracy .binary64 s m e .exact) := by
  have htarget := targetExponent_eq_unit (e := e) hm le_rfl (lt_add_one (m : ℚ))
  exact isNumberApart_roundWithAccuracy (represents_exact m) (by exact_mod_cast hm) htarget
    (htarget ▸ he)

/-- The same, whatever the exponent is. -/
lemma isNumberApart_round (hm : 0 < m) :
    IsNumberApart s (rounded (m * 2 ^ e)) (UnpackedFloat.round .binary64 s m e) := by
  simp only [UnpackedFloat.round, decreaseExponent, Nat.shiftLeft_eq]
  obtain ⟨k, hk⟩ : ∃ k, k = (e - Format.binary64.targetExponent (totalExponent m e)).toNat :=
    ⟨_, rfl⟩
  have htotal : totalExponent (m * 2 ^ k) (e - k) = totalExponent m e := by
    rw [totalExponent, totalExponent, log2_mul_two_pow hm]
    push_cast
    ring
  have hvalue : (m : ℚ) * 2 ^ e = (m * 2 ^ k : ℕ) * 2 ^ (e - k : ℤ) := by
    rw [zpow_sub₀ (by norm_num), zpow_natCast]
    push_cast
    field_simp
  rw [← hk, hvalue]
  exact isNumberApart_exact (Nat.mul_pos hm (Nat.two_pow_pos k)) (by rw [htotal]; omega)

/-- The same for a whole number with a sign. -/
lemma isNumberApart_normalize (hm : 0 < m) :
    IsNumberApart s (rounded (m * 2 ^ e)) (UnpackedFloat.normalize .binary64 (s.apply m) e t) := by
  cases s with
  | negative =>
    have hcmp : compare (Sign.apply .negative (m : ℤ)) 0 = .lt :=
      Int.compare_eq_lt.2 (by simp only [Sign.apply]; omega)
    have hdigits : (-Sign.apply .negative (m : ℤ)).toNat = m := by simp [Sign.apply]
    simp only [UnpackedFloat.normalize, hcmp, hdigits]
    exact isNumberApart_round hm
  | positive =>
    have hcmp : compare (Sign.apply .positive (m : ℤ)) 0 = .gt :=
      Int.compare_eq_gt.2 (by simp only [Sign.apply]; omega)
    have hdigits : (Sign.apply .positive (m : ℤ)).toNat = m := by simp [Sign.apply]
    simp only [UnpackedFloat.normalize, hcmp, hdigits]
    exact isNumberApart_round hm

/-- A product of digits is rounded to the nearest binary number, if it has as many digits as those
of a double. -/
lemma isNumberApart_product (hm : 0 < m) (hn : 0 < n)
    (hfull : e + f ≤ -1074 ∨ 2 ^ 52 ≤ m * n) :
    IsNumberApart (s * t) (rounded (m * 2 ^ e * (n * 2 ^ f)))
      (UnpackedFloat.mul .binary64 (.finite s m e hm) (.finite t n f hn)) := by
  have hproduct : (m : ℚ) * 2 ^ e * (n * 2 ^ f) = (m * n : ℕ) * 2 ^ (e + f) := by
    rw [zpow_add₀ (by norm_num)]
    push_cast
    ring
  rw [hproduct]
  refine isNumberApart_exact (Nat.mul_pos hm hn) ?_
  rw [Format.targetExponent, totalExponent]
  change e + f ≤ max (((m * n).log2 : ℤ) + 1 + (e + f) - 53) (-1074)
  rcases hfull with hsmall | hlarge
  · exact hsmall.trans (le_max_right _ _)
  · have hlog : 52 ≤ (m * n).log2 := (Nat.le_log2 (by omega)).2 hlarge
    exact le_trans (by omega) (le_max_left _ _)

/-- **A product is the binary number nearest** to the exact one. -/
theorem IsNumberApart.mul (hx : IsNumberApart s v x) (hy : IsNumberApart t w y) :
    IsNumberApart (s * t) (rounded (v * w)) (x.mul .binary64 y) := by
  match x, y, hx, hy with
  | .zero _, .zero _, ⟨hs, hv⟩, ⟨ht, _⟩ | .zero _, .finite .., ⟨hs, hv⟩, ⟨ht, _, _⟩ =>
    exact ⟨by rw [hs, ht], by rw [hv, zero_mul, rounded_zero]⟩
  | .finite .., .zero _, ⟨hs, _, _⟩, ⟨ht, hw⟩ =>
    exact ⟨by rw [hs, ht], by rw [hw, mul_zero, rounded_zero]⟩
  | .finite _ m e hm, .finite _ n f hn, ⟨hs, hv, hme⟩, ⟨ht, hw, hnf⟩ =>
    rw [hv, hw, ← hs, ← ht]
    refine isNumberApart_product hm hn ?_
    rcases hme.full with he | hm'
    · rcases hnf.full with hf | hn'
      · exact .inl (by omega)
      · exact .inr (hn'.trans (Nat.le_mul_of_pos_left n hm))
    · exact .inr (hm'.trans (Nat.le_mul_of_pos_right m hn))

/-- Two numbers are added with the digits that both have for the lesser exponent. -/
lemma digits_add (m n : ℕ) (e f : ℤ) : (m : ℚ) * 2 ^ e + n * 2 ^ f =
    (m * 2 ^ (e - min e f).toNat + n * 2 ^ (f - min e f).toNat : ℕ) * 2 ^ min e f := by
  have hshift : ∀ {g : ℤ}, min e f ≤ g →
      (2 : ℚ) ^ g = 2 ^ (g - min e f).toNat * 2 ^ min e f := by
    intro g hg
    rw [← zpow_natCast, ← zpow_add₀ (by norm_num), Int.toNat_of_nonneg (by omega), sub_add_cancel]
  rw [hshift (min_le_left e f), hshift (min_le_right e f)]
  push_cast
  ring

/-- Whole numbers of one sign are added as their magnitudes are. -/
lemma Sign.apply_add (s : Sign) (m n : ℕ) : s.apply m + s.apply n = s.apply ((m + n : ℕ) : ℤ) := by
  cases s <;> simp only [Sign.apply] <;> omega

/-- **A sum of two numbers of one sign is the binary number nearest** to the exact one. -/
theorem IsNumberApart.add (hx : IsNumberApart s v x) (hy : IsNumberApart s w y) :
    IsNumberApart s (rounded (v + w)) (x.add .binary64 y) := by
  match x, y, hx, hy with
  | .zero _, .zero _, ⟨hs, hv⟩, ⟨ht, hw⟩ =>
    refine of_dite (fun _ => ⟨hs, ?_⟩) fun hne => ?_
    · rw [hv, hw, add_zero, rounded_zero]
    · rw [hs, ht] at hne
      exact absurd (by cases s <;> rfl) hne
  | .zero _, .finite .., ⟨_, hv⟩, hy =>
    rw [hv, zero_add, hy.rounded_eq]
    exact hy
  | .finite .., .zero _, hx, ⟨_, hw⟩ =>
    rw [hw, add_zero, hx.rounded_eq]
    exact hx
  | .finite _ m e hm, .finite _ n f hn, ⟨hs, hv, _⟩, ⟨ht, hw, _⟩ =>
    rw [hs, ht, hv, hw, digits_add]
    change IsNumberApart s _ (UnpackedFloat.normalize .binary64
      (s.apply (m <<< (e - min e f).toNat : ℕ) + s.apply (n <<< (f - min e f).toNat : ℕ))
      (min e f) .positive)
    rw [Nat.shiftLeft_eq, Nat.shiftLeft_eq, Sign.apply_add]
    exact isNumberApart_normalize (Nat.add_pos_left (Nat.mul_pos hm (Nat.two_pow_pos _)) _)

/-- What is less than one has no digit before the point. -/
lemma log_lt_of_lt_one (hq : 0 < q) (hone : q < 1) (e : ℤ) : Int.log 2 (q * 2 ^ e) < e := by
  refine (Int.lt_zpow_iff_log_lt (by norm_num) (mul_pos hq (two_zpow_pos e))).1 ?_
  simpa using mul_lt_mul_of_pos_right hone (two_zpow_pos e)

/-- The unit of a number, by the digits before its point. They may all be zero if it is less than
the least unit. -/
lemma targetExponent_eq_unit_of_small (hle : (m : ℚ) ≤ q) (hlt : q < m + 1) (hq : 0 < q)
    (hsmall : m = 0 → e ≤ -1074) :
    Format.binary64.targetExponent (totalExponent m e) = unit (q * 2 ^ e) := by
  rcases Nat.eq_zero_or_pos m with rfl | hm
  · have he := hsmall rfl
    have hlog := log_lt_of_lt_one hq (by simpa using hlt) e
    rw [Format.targetExponent, totalExponent, unit]
    change max ((0 : ℤ) + 1 + e - 53) (-1074) = max _ _
    omega
  · exact targetExponent_eq_unit hm hle hlt

/-- The first digits of two numbers give the first digit of their quotient, or the one before it. -/
lemma le_log_quotient (hm : 0 < m) (hn : 0 < n) (e f : ℤ) :
    (m.log2 : ℤ) + e - (n.log2 + f) - 1 ≤ Int.log 2 ((m : ℚ) * 2 ^ e / (n * 2 ^ f)) := by
  have hw : (0 : ℚ) < n * 2 ^ f := mul_pos (by exact_mod_cast hn) (two_zpow_pos f)
  have hv : (0 : ℚ) < m * 2 ^ e := mul_pos (by exact_mod_cast hm) (two_zpow_pos e)
  refine (Int.zpow_le_iff_le_log (by norm_num) (div_pos hv hw)).1 ?_
  rw [le_div_iff₀ hw]
  have hhigh : (n : ℚ) * 2 ^ f ≤ 2 ^ ((n.log2 : ℤ) + f + 1) :=
    (mul_le_mul_of_nonneg_right (by linarith) (two_zpow_pos f).le).trans (le_zpow_log2 n f)
  calc
    ((2 : ℕ) : ℚ) ^ ((m.log2 : ℤ) + e - (n.log2 + f) - 1) * (n * 2 ^ f) ≤
        2 ^ ((m.log2 : ℤ) + e - (n.log2 + f) - 1) * 2 ^ ((n.log2 : ℤ) + f + 1) :=
      mul_le_mul_of_nonneg_left hhigh (two_zpow_pos _).le
    _ = 2 ^ ((m.log2 : ℤ) + e) := by
      rw [← zpow_add₀ (by norm_num)]
      congr 1
      ring
    _ ≤ m * 2 ^ e := zpow_log2_le hm e

/-- The digits of a quotient: the dividend is given as many as the whole part needs. -/
lemma exists_divCore (m n : ℕ) (e f : ℤ) : ∃ g k,
    divCore .binary64 m e n f = (m * 2 ^ k / n, g, accuracyOfFraction (m * 2 ^ k % n) n) ∧
      g = min (e - f) (max ((m.log2 : ℤ) + e - (n.log2 + f) - 53) (-1074)) ∧
      (m : ℚ) * 2 ^ e / (n * 2 ^ f) = ((m * 2 ^ k : ℕ) / n : ℚ) * 2 ^ g := by
  obtain ⟨g, hg⟩ : ∃ g, g = min (e - f)
    (Format.binary64.targetExponent (totalExponent m e - totalExponent n f)) := ⟨_, rfl⟩
  obtain ⟨k, hk⟩ : ∃ k, k = (e - f - g).toNat := ⟨_, rfl⟩
  have hcore : divCore .binary64 m e n f =
      (m * 2 ^ k / n, g, accuracyOfFraction (m * 2 ^ k % n) n) := by
    simp only [divCore, ← hg, ← hk, Nat.shiftLeft_eq]
  have hpow : (2 : ℚ) ^ e / 2 ^ f = 2 ^ k * 2 ^ g := by
    rw [← zpow_sub₀ (by norm_num), ← zpow_natCast, ← zpow_add₀ (by norm_num)]
    congr 1
    omega
  rw [Format.targetExponent, totalExponent, totalExponent] at hg
  change g = min (e - f) (max ((m.log2 : ℤ) + 1 + e - (n.log2 + 1 + f) - 53) (-1074)) at hg
  refine ⟨g, k, hcore, by omega, ?_⟩
  rw [mul_div_mul_comm, hpow]
  push_cast
  ring

/-- A quotient of numbers is that of their digits, which is rounded. -/
lemma div_eq {s t : Sign} {q : Nat} {e f g : Int} {acc : Accuracy} {hm : 0 < m} {hn : 0 < n}
    (h : divCore .binary64 m e n f = (q, g, acc)) :
    UnpackedFloat.div .binary64 (.finite s m e hm) (.finite t n f hn) =
      roundWithAccuracy .binary64 (s / t) q g acc := by
  obtain rfl : (divCore .binary64 m e n f).1 = q := by rw [h]
  obtain rfl : (divCore .binary64 m e n f).2.1 = g := by rw [h]
  obtain rfl : (divCore .binary64 m e n f).2.2 = acc := by rw [h]
  rfl

/-- **A quotient of digits is rounded to the nearest binary number.**

**Proof sketch.** The dividend is given as many digits as the whole part of the quotient needs; it
is zero only if the quotient is less than the least unit. What the remainder says about the digits
after the point (`represents_quotient`) decides the rounding. -/
lemma isNumberApart_quotient (hm : 0 < m) (hn : 0 < n) :
    IsNumberApart (s / t) (rounded (m * 2 ^ e / (n * 2 ^ f)))
      (UnpackedFloat.div .binary64 (.finite s m e hm) (.finite t n f hn)) := by
  obtain ⟨g, k, hcore, hg, hquotient⟩ := exists_divCore m n e f
  have hpos : (0 : ℚ) < (m * 2 ^ k : ℕ) / n :=
    div_pos (by exact_mod_cast Nat.mul_pos hm (Nat.two_pow_pos k)) (by exact_mod_cast hn)
  have hlog := le_log_quotient hm hn e f
  rw [hquotient] at hlog
  have hrepresents := represents_quotient (m := m * 2 ^ k) hn
  rw [div_eq hcore, hquotient]
  obtain ⟨hle, hlt⟩ := Int.floor_eq_iff.1 hrepresents.floor_eq
  rw [mantissa_ofMantissaAndAccuracy, Int.cast_natCast] at hle hlt
  refine isNumberApart_roundWithAccuracy hrepresents hpos ?_ ?_
  · refine targetExponent_eq_unit_of_small hle hlt hpos fun hzero => ?_
    have := log_lt_of_lt_one hpos (by simpa [hzero] using hlt) g
    omega
  · rw [unit]
    omega

/-- **A quotient is the binary number nearest** to the exact one. -/
theorem IsNumberApart.div (hx : IsNumberApart s v x) (hy : IsNumberApart t w y) (hw : w ≠ 0) :
    IsNumberApart (s / t) (rounded (v / w)) (x.div .binary64 y) := by
  match x, y, hx, hy with
  | .zero _, .zero _, _, ⟨_, hzero⟩ | .finite .., .zero _, _, ⟨_, hzero⟩ => exact absurd hzero hw
  | .zero _, .finite .., ⟨hs, hv⟩, ⟨ht, _, _⟩ =>
    exact ⟨by rw [hs, ht], by rw [hv, zero_div, rounded_zero]⟩
  | .finite _ m e hm, .finite _ n f hn, ⟨hs, hv, _⟩, ⟨ht, hw, _⟩ =>
    rw [hv, hw, ← hs, ← ht]
    exact isNumberApart_quotient hm hn

end

end Tariff.Number
