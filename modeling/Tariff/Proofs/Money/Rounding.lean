import Tariff.Money.Rounding
import Tariff.Proofs.Number.Arithmetic

/-!
# Rounding of amounts as numbers

Rounding an amount counts its parts: the magnitude is multiplied by the scale, one half is added,
and the whole number below is taken. The multiplication and the addition are rounded themselves, so
that a magnitude next to a half may get one part more or less than it should. Yet below a bound of
`2 ^ 45` the parts behave: they do not get lost when they are written as a double and counted again.

## Main definitions

* `Tariff.Money.parts` — the number of parts that a magnitude is rounded to.
* `Tariff.Money.cents` — the magnitude of an amount that is rounded to cents.

## Main results

* `Tariff.Money.parts_one_cents` — an amount that is rounded to cents first is rounded to another
  whole number only at a half.
* `Tariff.Money.isFinite_roundWith` — a finite amount stays finite.
* `Tariff.Money.isNumber_roundWith` — a rounded amount is made of its parts.
* `Tariff.Money.toCents_toCents` — cents are rounded to themselves.
-/

set_option autoImplicit false

namespace Tariff.Money

open Tariff.Number Float.Model.UnpackedFloat

/-! ### Parts of a magnitude -/

section

variable {c v : ℚ} {n : ℕ}

/-- The number of parts that a magnitude is rounded to, of which one has `c`. -/
def parts (c v : ℚ) : ℕ :=
  ⌊rounded (rounded (v * c) + 1 / 2)⌋₊

/-- There are some parts iff the last step of the rounding reaches them. -/
lemma le_parts_iff (hn : n ≠ 0) : n ≤ parts c v ↔ n ≤ rounded (rounded (v * c) + 1 / 2) :=
  Nat.le_floor_iff' hn

/-- There are as many parts as come with one half to spare. -/
lemma le_parts (hn : n ≤ 2 ^ 52) (h : n ≤ v * c + 1 / 2) : n ≤ parts c v := by
  obtain _ | n := n
  · exact Nat.zero_le _
  rw [le_parts_iff n.succ_ne_zero]
  have hhalf : ((2 * n + 1 : ℕ) : ℚ) / 2 ^ 1 ≤ rounded (v * c) := by
    refine fraction_le_rounded (by omega) (by norm_num) ?_
    push_cast at h ⊢
    linarith
  have hwhole : ((n + 1 : ℕ) : ℚ) / 2 ^ 0 ≤ rounded (rounded (v * c) + 1 / 2) := by
    refine fraction_le_rounded (by omega) (by norm_num) ?_
    push_cast at hhalf ⊢
    linarith
  simpa using hwhole

/-- From `2 ^ 51` on only halves are binary fractions, and a quarter is rounded away. -/
lemma rounded_le_of_lt_quarter (hv : 0 ≤ v) (hlarge : 2 ^ 51 ≤ n) (hn : n < 2 ^ 52)
    (h : v < n + 1 / 4) : rounded v ≤ n := by
  rcases le_or_gt v n with hle | hgt
  · exact rounded_le_natCast (by omega) hv hle
  have hlow : (2 : ℚ) ^ 51 ≤ n := by exact_mod_cast hlarge
  have hhigh : (n : ℚ) + 1 ≤ 2 ^ 52 := by exact_mod_cast hn
  have hunit : unit v = -1 :=
    unit_eq (show (2 : ℚ) ^ (51 : ℤ) ≤ v by linarith) (show v < (2 : ℚ) ^ (52 : ℤ) by linarith)
      (by norm_num)
  have hhalves : halfEven (v / 2 ^ (-1 : ℤ)) ≤ 2 * n := by
    have hmove := (abs_le.1 (abs_halfEven_sub_le (v / 2 ^ (-1 : ℤ)))).2
    have hlt : (halfEven (v / 2 ^ (-1 : ℤ)) : ℚ) < ((2 * n + 1 : ℤ) : ℚ) := by
      push_cast
      norm_num at hmove ⊢
      linarith
    exact Int.lt_add_one_iff.1 (by exact_mod_cast hlt)
  have hhalves : (halfEven (v / 2 ^ (-1 : ℤ)) : ℚ) ≤ 2 * n := by exact_mod_cast hhalves
  rw [rounded, hunit]
  norm_num at hhalves ⊢
  linarith

/-- There are no more parts than a magnitude has, up to a quarter of one.

**Proof sketch.** The magnitude in parts is rounded to one that leaves less than one half to the
next whole number, however it is rounded after one half is added. Below `2 ^ 51` a quarter is a
binary fraction, and from there on it is rounded away. -/
lemma parts_le (hv : 0 ≤ v * c) (hn : n < 2 ^ 52) (h : v * c < n + 1 / 4) : parts c v ≤ n := by
  have hsum : ∀ {k d : ℕ}, k < 2 ^ 53 → d ≤ 1074 → rounded (v * c) + 1 / 2 ≤ k / 2 ^ d →
      (k : ℚ) / 2 ^ d < n + 1 → parts c v ≤ n := by
    intro k d hk hd hle hlt
    have hhigh := rounded_le_fraction hk hd (by linarith [rounded_nonneg hv]) hle
    rw [← Nat.lt_succ_iff, parts, Nat.floor_lt' n.succ_ne_zero]
    push_cast
    linarith
  rcases Nat.lt_or_ge n (2 ^ 51) with hsmall | hlarge
  · have hquarter : rounded (v * c) ≤ ((4 * n + 1 : ℕ) : ℚ) / 2 ^ 2 := by
      refine rounded_le_fraction (by omega) (by norm_num) hv ?_
      push_cast
      linarith
    refine hsum (k := 4 * n + 3) (d := 2) (by omega) (by norm_num) ?_ ?_ <;>
      push_cast at hquarter ⊢ <;> linarith
  · have hwhole := rounded_le_of_lt_quarter hv hlarge hn h
    refine hsum (k := 2 * n + 1) (d := 1) (by omega) (by norm_num) ?_ ?_ <;>
      push_cast <;> linarith

/-- The last step of the rounding stays below the whole numbers that are no doubles. -/
lemma rounded_sum_le (hv : 0 ≤ v * c) (h : v * c ≤ 2 ^ 52) :
    rounded (rounded (v * c) + 1 / 2) ≤ (2 ^ 52 + 1 : ℕ) := by
  have hle := rounded_le_natCast (k := 2 ^ 52) (by norm_num) hv (by exact_mod_cast h)
  refine rounded_le_natCast (by norm_num) (by linarith [rounded_nonneg hv]) ?_
  push_cast at hle ⊢
  linarith

/-- A bounded magnitude has fewer parts than that. -/
lemma parts_lt (hv : 0 ≤ v * c) (h : v * c ≤ 2 ^ 52) : parts c v < 2 ^ 53 := by
  have hle : parts c v ≤ 2 ^ 52 + 1 := Nat.floor_le_of_le (rounded_sum_le hv h)
  omega

/-! ### Cents -/

/-- An amount below the bound has no more cents than that. -/
lemma parts_hundred_le (hv : 0 ≤ v) (h : v ≤ 2 ^ 45) : parts 100 v ≤ 100 * 2 ^ 45 := by
  refine parts_le (by linarith) (by norm_num) ?_
  push_cast
  linarith

/-- The magnitude of an amount that is rounded to cents. -/
def cents (v : ℚ) : ℚ :=
  rounded (parts 100 v / 100)

/-- Cents are not negative. -/
lemma cents_nonneg (v : ℚ) : 0 ≤ cents v :=
  rounded_nonneg (by positivity)

/-- Cents are written as a double. -/
lemma rounded_cents (v : ℚ) : rounded (cents v) = cents v :=
  rounded_rounded (by positivity)

/-- The cents of an amount up to the bound do not exceed it. -/
lemma cents_le (hv : 0 ≤ v) (hle : v ≤ 2 ^ 45) : cents v ≤ 2 ^ 45 := by
  have hbound : ((parts 100 v : ℕ) : ℚ) ≤ 100 * 2 ^ 45 := by
    exact_mod_cast parts_hundred_le hv hle
  have hrounded := rounded_le_natCast (k := 2 ^ 45) (v := parts 100 v / 100) (by norm_num)
    (by positivity) (by push_cast; linarith)
  exact_mod_cast hrounded

/-- Cents that are written as a double are moved by at most a five hundredth. -/
lemma abs_cents_sub_le (hv : 0 ≤ v) (hle : v ≤ 2 ^ 45) :
    |cents v - parts 100 v / 100| ≤ 1 / 512 := by
  rcases Nat.eq_zero_or_pos (parts 100 v) with hzero | hpos
  · rw [cents, hzero]
    norm_num
  · have hbound : (parts 100 v : ℚ) ≤ 100 * 2 ^ 45 := by exact_mod_cast parts_hundred_le hv hle
    have hpos : (0 : ℚ) < parts 100 v := by exact_mod_cast hpos
    have hmove := abs_rounded_sub_le_of_le (v := parts 100 v / 100) (e := 45) (by positivity)
      (show (parts 100 v : ℚ) / 100 ≤ 2 ^ 45 by linarith) (by norm_num)
    norm_num at hmove ⊢
    exact hmove

/-- **Cents that are counted again are as many.** -/
lemma parts_cents (hv : 0 ≤ v) (hle : v ≤ 2 ^ 45) : parts 100 (cents v) = parts 100 v := by
  have hcount := parts_hundred_le hv hle
  have hmove := abs_le.1 (abs_cents_sub_le hv hle)
  have hnonneg := cents_nonneg v
  apply le_antisymm
  · exact parts_le (by linarith) (by omega) (by linarith)
  · exact le_parts (by omega) (by linarith)

/-! ### Cents and whole amounts -/

/-- What is rounded to a whole number is at most a half below it, up to a small part. -/
lemma le_of_le_parts_one (hv : 0 ≤ v) (hle : v ≤ 2 ^ 45) (hexact : rounded v = v)
    (h : n ≤ parts 1 v) : n ≤ v + 1 / 2 + 1 / 256 := by
  obtain _ | n := n
  · push_cast
    linarith
  · rw [le_parts_iff n.succ_ne_zero, mul_one, hexact] at h
    have hmove := (abs_le.1 (abs_rounded_sub_le_of_le (v := v + 1 / 2) (e := 46) (by linarith)
      (show v + 1 / 2 ≤ 2 ^ 46 by linarith) (by norm_num))).2
    norm_num at hmove
    linarith

/-- A whole number is not lost in cents. -/
lemma parts_one_le_cents (hv : 0 ≤ v) (hle : v ≤ 2 ^ 45) (hexact : rounded v = v) (hn : n ≤ 2 ^ 45)
    (h : n ≤ parts 1 v) : n ≤ parts 1 (cents v) := by
  obtain _ | k := n
  · exact Nat.zero_le _
  have hclose := le_of_le_parts_one hv hle hexact h
  push_cast at hclose
  have hcount : 100 * k + 50 ≤ parts 100 v := le_parts (by omega) (by push_cast; linarith)
  have hcount : (100 : ℚ) * k + 50 ≤ parts 100 v := by exact_mod_cast hcount
  have hhalf : ((2 * k + 1 : ℕ) : ℚ) / 2 ^ 1 ≤ cents v :=
    fraction_le_rounded (by omega) (by norm_num) (by push_cast; linarith)
  push_cast at hhalf
  exact le_parts (by omega) (by push_cast; linarith)

/-- An amount below a half whose cents are rounded to the whole number above it has been lifted to
the half. -/
lemma cents_eq_half (hv : 0 ≤ v) (hle : v ≤ 2 ^ 45) (hn : n ≤ 2 ^ 45) (hbelow : v < n + 1 / 2)
    (h : n < parts 1 (cents v)) : cents v = n + 1 / 2 := by
  have hmost : parts 100 v ≤ 100 * n + 50 :=
    parts_le (by linarith) (by omega) (by push_cast; linarith)
  have hleast : 100 * n + 50 ≤ parts 100 v := by
    have hclose := le_of_le_parts_one (cents_nonneg v) (cents_le hv hle) (rounded_cents v) h
    have hmove := abs_le.1 (abs_cents_sub_le hv hle)
    by_contra hless
    have hless : parts 100 v ≤ 100 * n + 49 := by omega
    have hless : (parts 100 v : ℚ) ≤ 100 * n + 49 := by exact_mod_cast hless
    push_cast at hclose
    linarith
  have hvalue : (parts 100 v : ℚ) / 100 = ((2 * n + 1 : ℕ) : ℚ) / 2 ^ 1 := by
    rw [le_antisymm hmost hleast]
    push_cast
    ring
  rw [cents, hvalue, rounded_fraction (by omega) (by norm_num)]
  push_cast
  ring

/-- **Rounding to cents first changes a whole amount only at a half.** An amount that is rounded to
cents first is rounded to the same whole number, or it has been lifted to the half above that.

**Proof sketch.** Let `n` be the whole number of `v`. As `v` is not rounded to `n + 1`, it is below
the half above `n` and has at most `100 * n + 50` cents. If these are rounded to `n + 1` there are
no fewer (`cents_eq_half`). The other way round, cents that are written as a double lose too little
to miss `n` (`parts_one_le_cents`). -/
theorem parts_one_cents (hv : 0 ≤ v) (hle : v ≤ 2 ^ 45) (hexact : rounded v = v) :
    parts 1 (cents v) = parts 1 v ∨
      parts 1 (cents v) = parts 1 v + 1 ∧ cents v = parts 1 v + 1 / 2 ∧ v < cents v := by
  obtain ⟨n, hn⟩ : ∃ n, parts 1 v = n := ⟨_, rfl⟩
  have hmost : n ≤ 2 ^ 45 := hn ▸ parts_le (by linarith) (by norm_num) (by push_cast; linarith)
  have hbelow : v < n + 1 / 2 := by
    by_contra hge
    have := le_parts (c := 1) (v := v) (n := n + 1) (by omega) (by push_cast; linarith)
    omega
  rw [hn]
  rcases (parts_one_le_cents hv hle hexact hmost hn.ge).eq_or_lt with heq | hgt
  · exact .inl heq.symm
  · have hhalf := cents_eq_half hv hle hmost hbelow hgt
    have hnext : parts 1 (cents v) ≤ n + 1 :=
      parts_le (by linarith [cents_nonneg v]) (by omega) (by push_cast; linarith)
    exact .inr ⟨le_antisymm hnext hgt, hhalf, by linarith⟩

end

/-! ### Amounts -/

section

variable {scale x : Float} {s : Sign} {c v : ℚ}

/-- What is not finite is left as it is. -/
lemma roundWith_of_not_finite (h : x.isFinite = false) : roundWith scale x = x := by
  rw [roundWith]
  simp [h]

/-- **A finite amount stays finite** if it is rounded to parts of one. -/
lemma isFinite_roundWith (hc : IsNumber .positive c scale) (hone : 1 ≤ c)
    (h : x.isFinite = true) : (roundWith scale x).isFinite = true := by
  have hfloor : ∀ y : Float, (Float.ofInt ((floor? y).getD 0)).isFinite = true := by
    intro y
    cases hy : floor? y with
    | none => rfl
    | some i =>
      obtain ⟨m, k, hi, hm, hk⟩ := exists_of_floor? hy
      exact isFinite_ofInt hi hm hk
  have hsign : ∀ y : Float, y.isFinite = true → (withSign y x).isFinite = true := by
    intro y hy
    rw [withSign]
    split
    · exact isFinite_neg hy
    · exact hy
  simp only [roundWith]
  split
  · exact h
  · exact isFinite_add_zero (hsign _ (isFinite_div_of_one_le (hfloor _) hc hone))

/-- A hundred is a number. -/
lemma isNumber_hundred : IsNumber .positive 100 100.0 := by
  have hunpack : (100.0 : Float).toModel.unpack =
    .finite .positive 0x19000000000000 (-46) (by decide) := rfl
  exact isNumber_of_unpack hunpack ⟨by decide, by decide, .inr (by decide)⟩ (by norm_num)

/-- An amount is finite iff its cents are. -/
lemma isFinite_toCents_iff : (toCents x).isFinite = true ↔ x.isFinite = true := by
  constructor
  · intro h
    by_contra hinfinite
    rw [toCents, roundWith_of_not_finite (Bool.eq_false_iff.2 hinfinite)] at h
    exact hinfinite h
  · exact isFinite_roundWith isNumber_hundred (by norm_num)

/-- A bounded amount has a bounded number of parts. -/
lemma mul_le_of_le (hv : 0 ≤ v) (hle : v ≤ 2 ^ 45) (hmost : c ≤ 2 ^ 7) : v * c ≤ 2 ^ 52 := by
  calc
    v * c ≤ v * 2 ^ 7 := mul_le_mul_of_nonneg_left hmost hv
    _ ≤ 2 ^ 45 * 2 ^ 7 := by gcongr
    _ = 2 ^ 52 := by norm_num

/-- **An amount below the bound is rounded to parts.** -/
lemma roundWith_eq (hc : IsNumber .positive c scale) (hone : 1 ≤ c) (hmost : c ≤ 2 ^ 7)
    (hx : IsNumber s v x) (hv : v ≤ 2 ^ 45) :
    roundWith scale x = withSign (Float.ofNat (parts c v) / scale) x + 0.0 := by
  have hnonneg : 0 ≤ v * c := mul_nonneg hx.nonneg (by linarith)
  have hproduct := mul_le_of_le hx.nonneg hv hmost
  have hsum := rounded_sum_le hnonneg hproduct
  have hrounded := rounded_le_natCast (k := 2 ^ 52) (by norm_num) hnonneg
    (by exact_mod_cast hproduct)
  push_cast at hsum hrounded
  have hscaled := hx.abs.mul hc (lt_of_le_digits (by linarith))
  have hhalf := hscaled.add isNumber_half (lt_of_le_digits (by linarith))
  have hparts : (floor? (x.abs * scale + 0.5)).getD 0 = parts c v := by
    rw [hhalf.floor?_eq, Option.getD_some, parts, Int.natCast_floor_eq_floor]
    exact hhalf.nonneg
  have hscale : (scale == 0.0) = false := by
    rw [Bool.eq_false_iff, ne_eq, hc.beq_iff isNumber_zero]
    linarith
  simp only [roundWith, hx.isFinite, hscaled.isFinite, hscale, hparts]
  rfl

/-- **A rounded amount is a number**: it is made of its parts, and it has the sign of the amount
unless it is zero. -/
lemma isNumber_roundWith (hc : IsNumber .positive c scale) (hone : 1 ≤ c) (hmost : c ≤ 2 ^ 7)
    (hx : IsNumber s v x) (hv : v ≤ 2 ^ 45) :
    IsNumber (if parts c v = 0 then .positive else s) (rounded (parts c v / c))
      (roundWith scale x) := by
  have hlt : parts c v < 2 ^ 53 :=
    parts_lt (mul_nonneg hx.nonneg (by linarith)) (mul_le_of_le hx.nonneg hv hmost)
  have hle : rounded (parts c v / c) ≤ parts c v :=
    rounded_le_natCast hlt (by positivity) (div_le_self (by positivity) hone)
  have hquotient := (isNumber_natCast hlt).div hc (by linarith)
    (lt_of_le_digits (hle.trans (by exact_mod_cast hlt.le)))
  have hsigned : IsNumber s (rounded (parts c v / c))
      (withSign (Float.ofNat (parts c v) / scale) x) := IsNumber.withSign hquotient hx
  rw [roundWith_eq hc hone hmost hx hv]
  split
  · next hzero =>
    rw [hzero, Nat.cast_zero, zero_div, rounded_zero] at hsigned ⊢
    exact hsigned.zero_add_zero
  · next hsome =>
    have hpart : ((1 : ℕ) : ℚ) / 2 ^ 7 ≤ rounded (parts c v / c) := by
      refine fraction_le_rounded (by norm_num) (by norm_num) ?_
      have hone : (1 : ℚ) ≤ parts c v := by exact_mod_cast Nat.one_le_iff_ne_zero.2 hsome
      rw [Nat.cast_one]
      gcongr
    exact hsigned.add_zero (lt_of_lt_of_le (by norm_num) hpart).ne'

/-- The cents of an amount are a number. -/
lemma isNumber_toCents (hx : IsNumber s v x) (hv : v ≤ 2 ^ 45) :
    IsNumber (if parts 100 v = 0 then .positive else s) (cents v) (toCents x) :=
  isNumber_roundWith isNumber_hundred (by norm_num) (by norm_num) hx hv

/-- **Cents are rounded to themselves.** -/
theorem toCents_toCents (hx : IsNumber s v x) (hv : v ≤ 2 ^ 45) :
    toCents (toCents x) = toCents x := by
  have hcents := isNumber_toCents hx hv
  have honce := roundWith_eq isNumber_hundred (by norm_num) (by norm_num) hx hv
  have hagain := roundWith_eq isNumber_hundred (by norm_num) (by norm_num) hcents
    (cents_le hx.nonneg hv)
  rw [parts_cents hx.nonneg hv] at hagain
  change roundWith 100.0 (toCents x) = roundWith 100.0 x
  rw [hagain, honce]
  by_cases hzero : parts 100 v = 0
  · have hnone : ∀ y : Float, withSign (Float.ofNat 0 / 100.0) y + 0.0 = 0.0 := by
      intro y
      rw [withSign]
      split <;> decide +kernel
    rw [hzero, hnone, hnone]
  · have hsign : isNegative (toCents x) = isNegative x := by
      rw [Bool.eq_iff_iff, hcents.isNegative_iff, hx.isNegative_iff, if_neg hzero]
    rw [withSign, withSign, hsign]

end

end Tariff.Money
