import Tariff.Proofs.Number.Order
import Tariff.Proofs.Number.Rounding

/-!
# Arithmetic of doubles

A finite double is the number of a sign and a magnitude. An operation on such numbers has the binary
number nearest to the exact result, if that is within range, and else an infinity. The operations
that look at the digits of a double, such as the whole part, find those of the number.

## Main definitions

* `Tariff.Number.IsNumber` — a finite double, by its sign and its magnitude.

## Main results

* `Tariff.Number.exists_isNumber` — every finite double is a number.
* `Tariff.Number.IsNumber.mul`, `Tariff.Number.IsNumber.div`, `Tariff.Number.IsNumber.add`,
  `Tariff.Number.isNumber_ofNat` — the results of operations that are within range.
* `Tariff.Number.IsNumber.isFinite_mul_iff` — when a product is within range.
* `Tariff.Number.isFinite_of_mul`, `Tariff.Number.isFinite_of_div`, `Tariff.Number.isFinite_of_sub`
  — what a finite result is made of is finite.
* `Tariff.Number.IsNumber.floor?_eq`, `Tariff.Number.IsNumber.truncation?_eq` — the whole numbers
  beside a double.
-/

set_option autoImplicit false

namespace Tariff.Number

open Float.Model Float.Model.UnpackedFloat

/-! ### Bits -/

section

variable {bits : BitVec Format.binary64.numBits} {s t : Sign} {v : ℚ} {m : ℕ} {e : ℤ}
  {u : UnpackedFloat}

/-- The sign that is written down in bits is read from them. -/
lemma ofBitVec_unpackSign {spec : Format} (s : Sign) (exponent : BitVec spec.exponentBits)
    (fraction : BitVec spec.mantissaBitsWithoutImplicit) :
    Sign.ofBitVec (unpackSign (packComponents spec s exponent fraction)) = s := by
  have hbit : unpackSign (packComponents spec s exponent fraction) = s.toBitVec := by
    apply BitVec.eq_of_getLsbD_eq
    intro i hi
    obtain rfl : i = 0 := by omega
    change (BitVec.cast _
      (BitVec.extractLsb _ _ (s.toBitVec ++ exponent ++ fraction))).getLsbD 0 = _
    simp [BitVec.getLsbD_append, BitVec.getElem_append]
  rw [hbit]
  cases s <;> rfl

/-- The magnitude that is written down in bits: a least exponent stands for fewer digits. -/
def magnitudeOf (exponent : BitVec 11) (fraction : BitVec 52) : ℚ :=
  if exponent = 0#11 then fraction.toNat * 2 ^ (-1074 : ℤ)
  else (2 ^ 52 + fraction.toNat : ℕ) * 2 ^ ((exponent.toNat : ℤ) - 1075)

/-- What is read from bits is a number, unless all bits of the exponent are set. -/
lemma isNumberApart_unpack (h : unpackExponent bits ≠ -1#_) :
    IsNumberApart (Sign.ofBitVec (unpackSign bits))
      (magnitudeOf (unpackExponent bits) (unpackMantissa bits))
      (UnpackedFloat.unpack .binary64 bits) := by
  have hexponent : (unpackExponent bits).toNat < 2048 := (unpackExponent bits).isLt
  have hfraction : (unpackMantissa bits).toNat < 2 ^ 52 := (unpackMantissa bits).isLt
  refine of_dite (fun hmax => absurd hmax h) fun _ => ?_
  refine of_dite (fun hleast => ?_) fun hmore => ?_
  · have hvalue : magnitudeOf (unpackExponent bits) (unpackMantissa bits) =
        (unpackMantissa bits).toNat * 2 ^ (-1074 : ℤ) := if_pos hleast
    refine of_dite (fun hzero => ⟨rfl, ?_⟩) fun _ => ⟨rfl, ?_, ?_⟩
    · rw [hvalue, hzero]
      simp
    · rw [hvalue, hleast]
      rfl
    · rw [hleast]
      exact ⟨by omega, le_rfl, .inl rfl⟩
  · have hdigits : (1#1 ++ unpackMantissa bits).toNat = 2 ^ 52 + (unpackMantissa bits).toNat := by
      rw [BitVec.toNat_append, ← Nat.shiftLeft_add_eq_or_of_lt (unpackMantissa bits).isLt]
      rfl
    have hpos : (unpackExponent bits).toNat ≠ 0 := fun hzero =>
      hmore (BitVec.eq_of_toNat_eq hzero)
    refine ⟨rfl, ?_, ?_⟩
    · rw [hdigits]
      exact if_neg hmore
    · rw [hdigits]
      refine ⟨by omega, ?_, .inr (by omega)⟩
      change -1074 ≤ ((unpackExponent bits).toNat : ℤ) - 1075
      omega

/-- A number is less than the first power of two beyond the doubles iff its exponent is within
range. -/
lemma IsCanonical.lt_iff (h : IsCanonical m e) : (m : ℚ) * 2 ^ e < 2 ^ (1024 : ℤ) ↔ e ≤ 971 := by
  constructor
  · intro hlt
    rcases h.exponent_le (f := 972) hlt with he | he <;> omega
  · intro he
    have hdigits : (m : ℚ) < 2 ^ (53 : ℤ) := by exact_mod_cast h.lt_pow
    calc
      (m : ℚ) * 2 ^ e < 2 ^ (53 : ℤ) * 2 ^ e := mul_lt_mul_of_pos_right hdigits (two_zpow_pos e)
      _ = 2 ^ (53 + e) := (zpow_add₀ (by norm_num) _ _).symm
      _ ≤ 2 ^ (1024 : ℤ) := zpow_le_zpow_right₀ (by norm_num) (by omega)

/-- What is written down in fields of bits is read from them. -/
lemma isNumberApart_unpack_packComponents (s : Sign) {exponent : BitVec 11} (fraction : BitVec 52)
    (h : exponent ≠ -1#11) :
    IsNumberApart s (magnitudeOf exponent fraction)
      (UnpackedFloat.unpack .binary64 (packComponents .binary64 s exponent fraction)) := by
  have hexponent : unpackExponent (packComponents .binary64 s exponent fraction) ≠ -1#_ := by
    rwa [unpackExponent_packComponents]
  have hread := isNumberApart_unpack hexponent
  rwa [ofBitVec_unpackSign, unpackExponent_packComponents, unpackMantissa_packComponents] at hread

/-- The field of an exponent is neither the least nor the greatest one, if there are 53 digits. -/
lemma exponentField_spec (hlow : -1074 ≤ e) (hhigh : e ≤ 971) :
    (BitVec.ofNat 11 (e + 1023 + 52).toNat).toNat = (e + 1023 + 52).toNat ∧
      BitVec.ofNat 11 (e + 1023 + 52).toNat ≠ 0#11 ∧
      BitVec.ofNat 11 (e + 1023 + 52).toNat ≠ -1#11 := by
  have hfield : (BitVec.ofNat 11 (e + 1023 + 52).toNat).toNat = (e + 1023 + 52).toNat := by
    rw [BitVec.toNat_ofNat]
    omega
  refine ⟨hfield, ?_, ?_⟩
  · rw [ne_eq, ← BitVec.toNat_inj, hfield]
    change ¬_ = 0
    omega
  · rw [ne_eq, ← BitVec.toNat_inj, hfield]
    change ¬_ = 2047
    omega

/-- The magnitude that is written down for 53 digits, the first of which is not written. -/
lemma magnitudeOf_full (h : IsCanonical m e) (hlarge : 2 ^ 52 ≤ m) (he : e ≤ 971) :
    magnitudeOf (BitVec.ofNat 11 (e + 1023 + 52).toNat) (BitVec.ofNat 52 m) = m * 2 ^ e := by
  obtain ⟨hfield, hmore, -⟩ := exponentField_spec h.le_exponent he
  have hlt := h.lt_pow
  have hlow := h.le_exponent
  have hdigits : 2 ^ 52 + m % 2 ^ 52 = m := by omega
  have hexp : ((e + 1023 + 52).toNat : ℤ) - 1075 = e := by omega
  rw [magnitudeOf, if_neg hmore, hfield, BitVec.toNat_ofNat, hdigits, hexp]

/-- The magnitude that is written down for fewer digits. -/
lemma magnitudeOf_least (hsmall : m < 2 ^ 52) :
    magnitudeOf 0#11 (BitVec.ofNat 52 m) = m * 2 ^ (-1074 : ℤ) := by
  rw [magnitudeOf, if_pos rfl, BitVec.toNat_ofNat, Nat.mod_eq_of_lt hsmall]

/-- **A number within range is written down in bits.** -/
lemma IsNumberApart.unpack_pack (h : IsNumberApart s v u) (hv : v < 2 ^ (1024 : ℤ)) :
    IsNumberApart s v (UnpackedFloat.unpack .binary64 (UnpackedFloat.pack .binary64 u)) := by
  match u, h with
  | .zero _, ⟨hs, hzero⟩ =>
    have hnone : magnitudeOf 0#11 0#52 = v := by
      rw [hzero]
      simp [magnitudeOf]
    rw [← hs, ← hnone]
    exact isNumberApart_unpack_packComponents _ 0#52 (by decide)
  | .finite _ m e hm, ⟨hs, hvalue, hcanonical⟩ =>
    have he : e ≤ 971 := hcanonical.lt_iff.1 (hvalue ▸ hv)
    have hlt := hcanonical.lt_pow
    rw [pack_finite he, ← hs, hvalue]
    split
    · next hlog =>
      have hlog : m.log2 = 52 := by omega
      obtain ⟨hlarge, -⟩ := (Nat.log2_eq_iff (by omega)).1 hlog
      rw [← magnitudeOf_full hcanonical hlarge he]
      exact isNumberApart_unpack_packComponents _ _
        (exponentField_spec hcanonical.le_exponent he).2.2
    · next hlog =>
      have hsmall : m < 2 ^ 52 := by
        by_contra hlarge
        have := (Nat.log2_eq_iff (by omega)).2 ⟨Nat.le_of_not_lt hlarge, hlt⟩
        omega
      rw [hcanonical.full.resolve_right (by omega), ← magnitudeOf_least hsmall]
      exact isNumberApart_unpack_packComponents _ _ (by decide)

/-- A number beyond the range is written down as an infinity. -/
lemma IsNumberApart.isFinite_unpack_pack (h : IsNumberApart s v u) (hv : 2 ^ (1024 : ℤ) ≤ v) :
    (UnpackedFloat.unpack .binary64 (UnpackedFloat.pack .binary64 u)).isFinite = false := by
  match u, h with
  | .zero _, ⟨_, hzero⟩ =>
    rw [hzero] at hv
    exact absurd hv (not_le.2 (two_zpow_pos 1024))
  | .finite t m e hm, ⟨_, hvalue, hcanonical⟩ =>
    have he : 971 < e := by
      by_contra hle
      exact absurd (hcanonical.lt_iff.2 (by omega)) (not_lt.2 (hvalue ▸ hv))
    have hpack : UnpackedFloat.pack .binary64 (.finite t m e hm) = packedInfinity .binary64 t :=
      if_pos (show 2048 ≤ (e + 1023 + 52).toNat + 1 by omega)
    rw [hpack]
    cases t <;> rfl

end

/-! ### Doubles -/

/-- A finite double is the number of a sign and a magnitude. -/
def IsNumber (s : Sign) (v : ℚ) (x : Float) : Prop :=
  IsNumberApart s v x.toModel.unpack

section

variable {x y : Float} {s t : Sign} {v w : ℚ} {n : ℕ} {i : ℤ} {u : UnpackedFloat}

/-- **Every finite double is a number.** -/
theorem exists_isNumber (h : x.isFinite = true) : ∃ s v, IsNumber s v x :=
  ⟨_, _, isNumberApart_unpack (unpackExponent_ne h)⟩

/-- A number is finite. -/
lemma IsNumber.isFinite (h : IsNumber s v x) : x.isFinite = true := by
  change x.toModel.unpack.isFinite = true
  rw [IsNumber] at h
  match x.toModel.unpack, h with
  | .zero _, _ | .finite .., _ => rfl

/-- A number is within range. -/
lemma IsNumber.lt (h : IsNumber s v x) : v < 2 ^ (1024 : ℤ) := by
  have hrange := isInRange_unpack_iff.2 h.isFinite
  match hx : x.toModel.unpack, h, hrange with
  | .zero _, h, _ =>
    rw [IsNumber, hx] at h
    rw [h.2]
    exact two_zpow_pos 1024
  | .finite _ m e _, h, hrange =>
    rw [IsNumber, hx] at h
    rw [h.2.1, h.2.2.lt_iff]
    exact hrange.2

/-- The magnitude of a number is not negative. -/
lemma IsNumber.nonneg (h : IsNumber s v x) : 0 ≤ v :=
  IsNumberApart.nonneg h

/-- The magnitude of a number is rounded to itself. -/
lemma IsNumber.rounded_eq (h : IsNumber s v x) : rounded v = v :=
  IsNumberApart.rounded_eq h

/-- What is computed within range is a number. -/
lemma isNumber_of_pack (h : IsNumberApart s v u) (hv : v < 2 ^ (1024 : ℤ)) :
    IsNumber s v (Float.ofModel (Float.Model.pack u)) :=
  h.unpack_pack hv

/-- What is computed is finite iff it is within range. -/
lemma isFinite_pack_iff (h : IsNumberApart s v u) :
    (Float.ofModel (Float.Model.pack u)).isFinite = true ↔ v < 2 ^ (1024 : ℤ) := by
  constructor
  · intro hfinite
    by_contra hlarge
    have hinfinite := h.isFinite_unpack_pack (not_lt.1 hlarge)
    have hfinite : (UnpackedFloat.unpack .binary64 (UnpackedFloat.pack .binary64 u)).isFinite =
        true := hfinite
    rw [hinfinite] at hfinite
    simp at hfinite
  · exact fun hv => (isNumber_of_pack h hv).isFinite

/-- A product within range. -/
theorem IsNumber.mul (hx : IsNumber s v x) (hy : IsNumber t w y)
    (h : rounded (v * w) < 2 ^ (1024 : ℤ)) : IsNumber (s * t) (rounded (v * w)) (x * y) :=
  isNumber_of_pack (IsNumberApart.mul hx hy) h

/-- A product is finite iff it is within range. -/
lemma IsNumber.isFinite_mul_iff (hx : IsNumber s v x) (hy : IsNumber t w y) :
    (x * y).isFinite = true ↔ rounded (v * w) < 2 ^ (1024 : ℤ) :=
  isFinite_pack_iff (IsNumberApart.mul hx hy)

/-- A quotient within range. -/
theorem IsNumber.div (hx : IsNumber s v x) (hy : IsNumber t w y) (hw : w ≠ 0)
    (h : rounded (v / w) < 2 ^ (1024 : ℤ)) : IsNumber (s / t) (rounded (v / w)) (x / y) :=
  isNumber_of_pack (IsNumberApart.div hx hy hw) h

/-- A sum of two numbers of one sign within range. -/
theorem IsNumber.add (hx : IsNumber s v x) (hy : IsNumber s w y)
    (h : rounded (v + w) < 2 ^ (1024 : ℤ)) : IsNumber s (rounded (v + w)) (x + y) :=
  isNumber_of_pack (IsNumberApart.add hx hy) h

/-- The opposite of a number. -/
lemma IsNumber.neg (h : IsNumber s v x) : IsNumber (-s) v (-x) := by
  have hneg : IsNumberApart (-s) v x.toModel.unpack.neg := by
    rw [IsNumber] at h
    match x.toModel.unpack, h with
    | .zero _, ⟨hs, hv⟩ => exact ⟨by rw [hs], hv⟩
    | .finite .., ⟨hs, hv, hcanonical⟩ => exact ⟨by rw [hs], hv, hcanonical⟩
  exact isNumber_of_pack hneg h.lt

/-- The magnitude of a number as a double. -/
lemma IsNumber.abs (h : IsNumber s v x) : IsNumber .positive v x.abs := by
  have habs : IsNumberApart .positive v x.toModel.unpack.abs := by
    rw [IsNumber] at h
    match x.toModel.unpack, h with
    | .zero _, ⟨_, hv⟩ => exact ⟨rfl, hv⟩
    | .finite .., ⟨_, hv, hcanonical⟩ => exact ⟨rfl, hv, hcanonical⟩
  exact isNumber_of_pack habs h.lt

/-- A number other than zero stays as it is if zero is added. -/
lemma IsNumber.add_zero (h : IsNumber s v x) (hv : v ≠ 0) : IsNumber s v (x + 0.0) := by
  have hsum : IsNumberApart s v (x.toModel.unpack.add .binary64 (.zero .positive)) := by
    rw [IsNumber] at h
    match x.toModel.unpack, h with
    | .zero _, ⟨_, hzero⟩ => exact absurd hzero hv
    | .finite .., h => exact h
  exact isNumber_of_pack hsum h.lt

/-- A zero loses its sign if zero is added. -/
lemma IsNumber.zero_add_zero (h : IsNumber s 0 x) : IsNumber .positive 0 (x + 0.0) := by
  have hsum : IsNumberApart .positive 0 (x.toModel.unpack.add .binary64 (.zero .positive)) := by
    rw [IsNumber] at h
    match x.toModel.unpack, h with
    | .zero t, _ => cases t <;> exact ⟨rfl, rfl⟩
    | .finite _ m e hm, ⟨_, hzero, _⟩ =>
      exact absurd hzero (mul_pos (by exact_mod_cast hm) (two_zpow_pos e)).ne
  exact isNumber_of_pack hsum h.lt

/-- The opposite of a finite double is finite. -/
lemma isFinite_neg (h : x.isFinite = true) : (-x).isFinite = true := by
  obtain ⟨s, v, hx⟩ := exists_isNumber h
  exact hx.neg.isFinite

/-- A finite double stays finite if zero is added to it. -/
lemma isFinite_add_zero (h : x.isFinite = true) : (x + 0.0).isFinite = true := by
  obtain ⟨s, v, hx⟩ := exists_isNumber h
  by_cases hv : v = 0
  · rw [hv] at hx
    exact hx.zero_add_zero.isFinite
  · exact (hx.add_zero hv).isFinite

/-! ### What a finite result is made of -/

/-- What is written down as a finite double is one. -/
lemma isFinite_of_isFinite_pack
    (h : (Float.ofModel (Float.Model.pack u)).isFinite = true) : u.isFinite = true := by
  have h : (UnpackedFloat.unpack .binary64 (UnpackedFloat.pack .binary64 u)).isFinite = true := h
  cases u with
  | zero _ => rfl
  | finite _ _ _ _ => rfl
  | infinity s =>
    cases s <;> exact absurd h (by decide)
  | notANumber => exact absurd h (by decide)

/-- The factors of a finite product are finite. -/
lemma isFinite_of_mul (h : (x * y).isFinite = true) :
    x.isFinite = true ∧ y.isFinite = true := by
  have hapart : ∀ a b : UnpackedFloat, (a.mul .binary64 b).isFinite = true →
      a.isFinite = true ∧ b.isFinite = true := by
    intro a b h
    cases a <;> cases b <;> first | exact ⟨rfl, rfl⟩ | exact absurd h Bool.false_ne_true
  exact hapart _ _ (isFinite_of_isFinite_pack h)

/-- The dividend of a finite quotient is finite. -/
lemma isFinite_of_div (h : (x / y).isFinite = true) : x.isFinite = true := by
  have hapart : ∀ a b : UnpackedFloat, (a.div .binary64 b).isFinite = true →
      a.isFinite = true := by
    intro a b h
    cases a <;> cases b <;> first | rfl | exact absurd h Bool.false_ne_true
  exact hapart _ _ (isFinite_of_isFinite_pack h)

/-- What is subtracted to a finite difference is finite. -/
lemma isFinite_of_sub (h : (x - y).isFinite = true) : y.isFinite = true := by
  have hapart : ∀ a b : UnpackedFloat, (a.sub .binary64 b).isFinite = true →
      b.isFinite = true := by
    intro a b h
    match a, b, h with
    | _, .zero _, _ | _, .finite .., _ => rfl
    | .infinity s, .infinity t, h => cases s <;> cases t <;> exact absurd h Bool.false_ne_true
  exact hapart _ _ (isFinite_of_isFinite_pack h)

/-- The opposite of a double is finite iff the double is. -/
lemma isFinite_neg_iff : (-x).isFinite = true ↔ x.isFinite = true := by
  refine ⟨fun h => ?_, isFinite_neg⟩
  have hapart : ∀ a : UnpackedFloat, a.neg.isFinite = true → a.isFinite = true := by
    intro a h
    cases a <;> first | rfl | exact absurd h Bool.false_ne_true
  exact hapart _ (isFinite_of_isFinite_pack h)

/-- A finite double stays finite if it is divided by one or more. -/
lemma isFinite_div_of_one_le (hx : x.isFinite = true) (hy : IsNumber t w y) (hw : 1 ≤ w) :
    (x / y).isFinite = true := by
  obtain ⟨s, v, hx⟩ := exists_isNumber hx
  have hquotient := rounded_mono (div_nonneg hx.nonneg (by linarith)) (div_le_self hx.nonneg hw)
  rw [hx.rounded_eq] at hquotient
  exact (hx.div hy (by linarith) (hquotient.trans_lt hx.lt)).isFinite

/-! ### Whole numbers as doubles -/

/-- The double of a word is the binary number nearest to it. -/
lemma isNumber_toFloat (word : UInt64) (h : rounded word.toNat < 2 ^ (1024 : ℤ)) :
    IsNumber .positive (rounded word.toNat) word.toFloat := by
  refine isNumber_of_pack (u := UnpackedFloat.normalize .binary64 word.toNat 0 .positive) ?_ h
  rcases Nat.eq_zero_or_pos word.toNat with hzero | hpos
  · rw [hzero, Nat.cast_zero, rounded_zero]
    exact ⟨rfl, rfl⟩
  · have hnormal := isNumberApart_normalize (e := 0) (s := .positive) (t := .positive) hpos
    rwa [zpow_zero, mul_one] at hnormal

/-- A double that is taken apart shows which number it is. -/
lemma isNumber_of_unpack {m : ℕ} {e : ℤ} {hm : 0 < m}
    (h : x.toModel.unpack = .finite s m e hm) (hcanonical : IsCanonical m e) (hv : v = m * 2 ^ e) :
    IsNumber s v x := by
  rw [IsNumber, h]
  exact ⟨rfl, hv, hcanonical⟩

/-- Zero is a number. -/
lemma isNumber_zero : IsNumber .positive 0 0.0 :=
  ⟨rfl, rfl⟩

/-- One is a number. -/
lemma isNumber_one : IsNumber .positive 1 1.0 := by
  have hunpack : (1.0 : Float).toModel.unpack =
    .finite .positive 0x10000000000000 (-52) (by decide) := rfl
  exact isNumber_of_unpack hunpack ⟨by decide, by decide, .inr (by decide)⟩ (by norm_num)

/-- A half is a number. -/
lemma isNumber_half : IsNumber .positive (1 / 2) 0.5 := by
  have hunpack : (0.5 : Float).toModel.unpack =
    .finite .positive 0x10000000000000 (-53) (by decide) := rfl
  exact isNumber_of_unpack hunpack ⟨by decide, by decide, .inr (by decide)⟩ (by norm_num)

/-- What has at most 53 digits before the point is within range. -/
lemma lt_of_le_digits (h : v ≤ 2 ^ 53) : v < 2 ^ (1024 : ℤ) :=
  h.trans_lt (zpow_lt_zpow_right₀ (m := 53) (by norm_num) (by norm_num))

/-- A whole number of at most 53 binary digits is one. -/
lemma rounded_natCast (h : n < 2 ^ 53) : rounded n = n := by
  simpa using rounded_digits h (show (-1074 : ℤ) ≤ 0 by decide)

/-- A whole number becomes a double by rounding. -/
lemma ofScientific_eq (hn : n ≠ 0) : UnpackedFloat.ofScientific .binary64 n 0 =
    roundWithAccuracy .binary64 .positive (n * 2 ^ 53) (-53) .exact := by
  have hlarge : ¬(0 : Int) < -((2 ^ 11 : Int) + n.log2) := by omega
  rw [UnpackedFloat.ofScientific, dif_neg hn, if_neg (by decide), if_neg hlarge, if_pos (by decide)]
  change roundWithAccuracy .binary64 .positive (n <<< 53 * 1) (-53) .exact = _
  rw [Nat.mul_one, Nat.shiftLeft_eq]

/-- The double of a whole number is computed as the binary number nearest to it. -/
lemma exists_ofNat (n : ℕ) : ∃ u, Float.ofNat n = Float.ofModel (Float.Model.pack u) ∧
    IsNumberApart .positive (rounded n) u := by
  change ∃ u, Float.ofScientific n false 0 = _ ∧ _
  by_cases hsmall : n < 2 ^ 53
  · have hexact : n < 2 ^ 53 ∧ 0 ≤ 22 := ⟨hsmall, by omega⟩
    have hword : n.toUInt64.toNat = n := Nat.mod_eq_of_lt (by omega)
    have hrange : (n : ℚ) < 2 ^ (1024 : ℤ) := lt_of_le_digits (by exact_mod_cast hsmall.le)
    have hdouble := isNumber_toFloat n.toUInt64 (by rwa [hword, rounded_natCast hsmall])
    rw [hword] at hdouble
    have hproduct := IsNumberApart.mul hdouble isNumber_one
    rw [mul_one, hdouble.rounded_eq] at hproduct
    rw [Float.ofScientific, dif_pos hexact]
    exact ⟨_, rfl, hproduct⟩
  · have hne : n ≠ 0 := by omega
    have hslow : ¬(n < 2 ^ 53 ∧ 0 ≤ 22) := fun hfast => hsmall hfast.1
    have hvalue : (n : ℚ) = (n * 2 ^ 53 : ℕ) * 2 ^ (-53 : ℤ) := by
      push_cast
      rw [mul_assoc]
      norm_num
    have hlog : 53 ≤ (n * 2 ^ 53).log2 := by
      rw [log2_mul_two_pow (Nat.pos_of_ne_zero hne)]
      omega
    have hdigits :
        (-53 : ℤ) ≤ Format.binary64.targetExponent (totalExponent (n * 2 ^ 53) (-53)) := by
      rw [Format.targetExponent, totalExponent]
      change -53 ≤ max (((n * 2 ^ 53).log2 : ℤ) + 1 + -53 - 53) (-1074)
      omega
    have hexact := isNumberApart_exact (s := .positive)
      (Nat.mul_pos (Nat.pos_of_ne_zero hne) (Nat.two_pow_pos 53)) hdigits
    rw [← hvalue, ← ofScientific_eq hne] at hexact
    rw [Float.ofScientific, dif_neg hslow]
    exact ⟨_, rfl, hexact⟩

/-- **The double of a whole number is the binary number nearest to it**, if that is within range. -/
theorem isNumber_ofNat (h : rounded n < 2 ^ (1024 : ℤ)) :
    IsNumber .positive (rounded n) (Float.ofNat n) := by
  obtain ⟨u, hu, hnumber⟩ := exists_ofNat n
  rw [hu]
  exact isNumber_of_pack hnumber h

/-- A whole number of at most 53 binary digits is a double. -/
lemma isNumber_natCast (h : n < 2 ^ 53) : IsNumber .positive n (Float.ofNat n) := by
  have hnumber := isNumber_ofNat (n := n)
  rw [rounded_natCast h] at hnumber
  exact hnumber (lt_of_le_digits (by exact_mod_cast h.le))

/-- The double of a whole number is finite iff it is within range. -/
lemma isFinite_ofNat_iff : (Float.ofNat n).isFinite = true ↔ rounded n < 2 ^ (1024 : ℤ) := by
  obtain ⟨u, hu, hnumber⟩ := exists_ofNat n
  rw [hu]
  exact isFinite_pack_iff hnumber

/-- A whole number of at most 53 binary digits, times a power of two within range, is a finite
double. -/
lemma isFinite_ofNat {m k : ℕ} (hm : m < 2 ^ 53) (hk : k ≤ 971) :
    (Float.ofNat (m * 2 ^ k)).isFinite = true := by
  have hdigits : (m : ℚ) < 2 ^ (53 : ℤ) := by exact_mod_cast hm
  have hvalue : ((m * 2 ^ k : ℕ) : ℚ) = m * 2 ^ (k : ℤ) := by
    push_cast
    rw [zpow_natCast]
  rw [isFinite_ofNat_iff, hvalue, rounded_digits hm (by omega)]
  calc
    (m : ℚ) * 2 ^ (k : ℤ) < 2 ^ (53 : ℤ) * 2 ^ (k : ℤ) :=
      mul_lt_mul_of_pos_right hdigits (two_zpow_pos k)
    _ = 2 ^ (53 + k : ℤ) := (zpow_add₀ (by norm_num) _ _).symm
    _ ≤ 2 ^ (1024 : ℤ) := zpow_le_zpow_right₀ (by norm_num) (by omega)

/-- The same holds of whole numbers with a sign. -/
lemma isFinite_ofInt {i : ℤ} {m k : ℕ} (hi : i.natAbs = m * 2 ^ k) (hm : m < 2 ^ 53)
    (hk : k ≤ 971) : (Float.ofInt i).isFinite = true := by
  have hfinite := isFinite_ofNat hm hk
  rw [← hi] at hfinite
  cases i with
  | ofNat i => exact hfinite
  | negSucc i => exact isFinite_neg hfinite

end

/-! ### Whole numbers beside a double -/

section

variable {x y : Float} {s t : Sign} {v w : ℚ} {u : UnpackedFloat}

/-- A double is the number of one sign and magnitude only. -/
lemma IsNumberApart.unique (h : IsNumberApart s v u) (h' : IsNumberApart t w u) :
    s = t ∧ v = w := by
  match u, h, h' with
  | .zero _, ⟨hs, hv⟩, ⟨ht, hw⟩ => exact ⟨hs.symm.trans ht, hv.trans hw.symm⟩
  | .finite .., ⟨hs, hv, _⟩, ⟨ht, hw, _⟩ => exact ⟨hs.symm.trans ht, hv.trans hw.symm⟩

/-- The bits of the fraction of a double are a field of its bits. -/
lemma unpackMantissa_toNat : (@unpackMantissa .binary64 x.toModel.toBits.toBitVec).toNat =
    x.toBits.toNat % twoPow 52 := by
  change (BitVec.extractLsb 51 0 x.toModel.toBits.toBitVec).toNat = _
  rw [BitVec.extractLsb_toNat, Nat.shiftRight_zero]
  rfl

/-- The sign bit of a double is the first of its bits. -/
lemma isNegative_iff_unpackSign : isNegative x = true ↔
    Sign.ofBitVec (@unpackSign .binary64 x.toModel.toBits.toBitVec) = .negative := by
  have hbits : x.toBits.toNat < 2 ^ 64 := x.toBits.toBitVec.isLt
  have hfield : (@unpackSign .binary64 x.toModel.toBits.toBitVec).toNat =
      x.toBits.toNat / 2 ^ 63 % 2 := by
    change (BitVec.extractLsb 63 63 x.toModel.toBits.toBitVec).toNat = _
    rw [BitVec.extractLsb_toNat, Nat.shiftRight_eq_div_pow]
    rfl
  have hpow : twoPow 63 = 2 ^ 63 := rfl
  rw [isNegative, decide_eq_true_eq, Sign.ofBitVec, hpow]
  split
  · next hzero =>
    rw [← BitVec.toNat_inj, hfield, BitVec.toNat_ofNat] at hzero
    simp only [reduceCtorEq, iff_false, not_le]
    omega
  · next hone =>
    rw [← BitVec.toNat_inj, hfield, BitVec.toNat_ofNat] at hone
    simp only [iff_true]
    omega

/-- **A number is taken apart into its sign and digits for its magnitude.** -/
theorem IsNumber.ofFloat_eq (h : IsNumber s v x) : ∃ m e,
    Binary.ofFloat x = .finite (isNegative x) m e ∧ v = m * 2 ^ e := by
  have hmax := unpackExponent_ne h.isFinite
  obtain ⟨-, hv⟩ := IsNumberApart.unique h (isNumberApart_unpack hmax)
  have hfield : x.toBits.toNat / twoPow 52 % twoPow 11 ≠ 2047 := by
    rw [← unpackExponent_toNat]
    exact fun heq => hmax (BitVec.eq_of_toNat_eq heq)
  simp only [Binary.ofFloat, if_neg hfield]
  rw [magnitudeOf, unpackMantissa_toNat, unpackExponent_toNat] at hv
  by_cases hzero : x.toBits.toNat / twoPow 52 % twoPow 11 = 0
  · have hleast : @unpackExponent .binary64 x.toModel.toBits.toBitVec = 0#11 :=
      BitVec.eq_of_toNat_eq (unpackExponent_toNat.trans hzero)
    rw [if_pos hleast] at hv
    rw [if_pos hzero]
    exact ⟨_, _, rfl, hv⟩
  · have hmore : @unpackExponent .binary64 x.toModel.toBits.toBitVec ≠ 0#11 := by
      intro hleast
      rw [← unpackExponent_toNat, hleast] at hzero
      exact hzero rfl
    rw [if_neg hmore] at hv
    rw [if_neg hzero]
    exact ⟨_, _, rfl, hv⟩

/-- The sign bit of a number is set iff its sign is negative. -/
lemma IsNumber.isNegative_iff (h : IsNumber s v x) : isNegative x = true ↔ s = .negative := by
  obtain ⟨hs, -⟩ := IsNumberApart.unique h (isNumberApart_unpack (unpackExponent_ne h.isFinite))
  rw [isNegative_iff_unpackSign, hs]

/-- A magnitude with the sign of a number. -/
lemma IsNumber.withSign (hx : IsNumber .positive v x) (hy : IsNumber s w y) :
    IsNumber s v (withSign x y) := by
  rw [Number.withSign]
  cases s with
  | positive =>
    have hsign : ¬isNegative y = true := by simp [hy.isNegative_iff]
    rwa [if_neg hsign]
  | negative =>
    rw [if_pos (hy.isNegative_iff.2 rfl)]
    exact hx.neg

/-- The value of a whole number times a power of two. -/
lemma scaled_value (i e : ℤ) :
    ((Ratio.scaled i e).numerator : ℚ) / (Ratio.scaled i e).denominator = i * 2 ^ e := by
  have hpow : ∀ k, (twoPow k : ℚ) = 2 ^ (k : ℤ) := by
    intro k
    rw [show twoPow k = 2 ^ k from rfl, zpow_natCast]
    push_cast
    rfl
  rw [Ratio.scaled]
  push_cast
  rw [hpow, hpow, mul_div_assoc, ← zpow_sub₀ (by norm_num)]
  congr 2
  omega

/-- The whole number below a fraction. -/
lemma Ratio.floor_eq (r : Ratio) : r.floor = ⌊(r.numerator : ℚ) / r.denominator⌋ := by
  rw [Ratio.floor, Int.fdiv_eq_ediv_of_nonneg _ (Int.natCast_nonneg _),
    Rat.floor_intCast_div_natCast]

/-- **The whole number below a number from zero on.** -/
theorem IsNumber.floor?_eq (h : IsNumber .positive v x) : floor? x = some ⌊v⌋ := by
  obtain ⟨m, e, hx, hv⟩ := h.ofFloat_eq
  have hsign : isNegative x = false := by
    rw [Bool.eq_false_iff, ne_eq, h.isNegative_iff]
    simp
  rw [floor?, ratio?, hx, hsign]
  simp only [Bool.false_eq_true, if_false, Option.map_some, Ratio.floor_eq, scaled_value]
  rw [hv]
  push_cast
  rfl

/-- **A number without its part after the point.** -/
theorem IsNumber.truncation?_eq (h : IsNumber s v x) : truncation? x = some (s.apply ⌊v⌋) := by
  obtain ⟨m, e, hx, hv⟩ := h.ofFloat_eq
  have hfloor : (Ratio.scaled m e).truncation = ⌊v⌋ := by
    have hnonneg : 0 ≤ (Ratio.scaled m e).numerator := by
      rw [Ratio.scaled]
      positivity
    have heq := Ratio.floor_eq (Ratio.scaled m e)
    rw [scaled_value, Ratio.floor, Int.fdiv_eq_ediv_of_nonneg _ (Int.natCast_nonneg _)] at heq
    rw [Ratio.truncation, Int.tdiv_eq_ediv_of_nonneg hnonneg, heq, hv]
    push_cast
    rfl
  rw [truncation?, ratio?, hx]
  cases s with
  | positive =>
    have hsign : isNegative x = false := by
      rw [Bool.eq_false_iff, ne_eq, h.isNegative_iff]
      simp
    rw [hsign, ← hfloor]
    rfl
  | negative =>
    rw [h.isNegative_iff.2 rfl, ← hfloor]
    simp [Sign.apply, Ratio.scaled, Ratio.truncation]

/-- Of two numbers with digits, the one with the greater exponent is greater. -/
lemma IsCanonical.lt_of_lt {m n : ℕ} {e f : ℤ} (hm : IsCanonical m e) (hn : IsCanonical n f)
    (h : e < f) : (m : ℚ) * 2 ^ e < n * 2 ^ f := by
  have hfull : 2 ^ 52 ≤ n := hn.full.resolve_left (by have := hm.le_exponent; omega)
  calc
    (m : ℚ) * 2 ^ e < 2 ^ (53 : ℤ) * 2 ^ e :=
      mul_lt_mul_of_pos_right (by exact_mod_cast hm.lt_pow) (two_zpow_pos e)
    _ = 2 ^ (53 + e) := (zpow_add₀ (by norm_num) _ _).symm
    _ ≤ 2 ^ (52 + f) := zpow_le_zpow_right₀ (by norm_num) (by omega)
    _ = 2 ^ (52 : ℤ) * 2 ^ f := zpow_add₀ (by norm_num) _ _
    _ ≤ n * 2 ^ f := mul_le_mul_of_nonneg_right (by exact_mod_cast hfull) (two_zpow_pos f).le

/-- Numbers with digits are ordered by their exponents, and those with the same exponent by their
digits. -/
lemma IsCanonical.lt_iff_lex {m n : ℕ} {e f : ℤ} (hm : IsCanonical m e) (hn : IsCanonical n f) :
    (m : ℚ) * 2 ^ e < n * 2 ^ f ↔ e < f ∨ e = f ∧ (m : ℤ) < n := by
  rcases lt_trichotomy e f with hlt | rfl | hgt
  · simp [hlt, hm.lt_of_lt hn hlt]
  · rw [mul_lt_mul_iff_left₀ (two_zpow_pos e)]
    simp
  · simp [(hn.lt_of_lt hm hgt).le.not_gt, hgt.not_gt, hgt.ne']

/-- The places of numbers that are taken apart, the first of which is not below zero. -/
lemma IsNumberApart.placeOf_lt_iff {a b : UnpackedFloat} (ha : IsNumberApart .positive v a)
    (hb : IsNumberApart t w b) : placeOf a < placeOf b ↔ t = .positive ∧ v < w := by
  match a, b, ha, hb with
  | .zero _, .zero _, ⟨_, hv⟩, ⟨_, hw⟩ =>
    dsimp only [placeOf]
    simp [hv, hw]
  | .zero _, .finite .positive n f hn, ⟨_, hv⟩, ⟨ht, hw, _⟩ =>
    have hpos : (0 : ℚ) < n * 2 ^ f := mul_pos (by exact_mod_cast hn) (two_zpow_pos f)
    dsimp only [placeOf]
    simp [hv, ← ht, hw, hpos, Prod.Lex.toLex_lt_toLex]
  | .zero _, .finite .negative .., _, ⟨ht, _⟩ =>
    dsimp only [placeOf]
    simp [← ht, Prod.Lex.toLex_lt_toLex]
  | .finite .positive m e hm, .zero _, ⟨_, hv, _⟩, ⟨_, hw⟩ =>
    have hpos : (0 : ℚ) < m * 2 ^ e := mul_pos (by exact_mod_cast hm) (two_zpow_pos e)
    dsimp only [placeOf]
    simp [hv, hw, hpos.le, Prod.Lex.toLex_lt_toLex]
  | .finite .positive .., .finite .negative .., _, ⟨ht, _⟩ =>
    dsimp only [placeOf]
    simp [← ht, Prod.Lex.toLex_lt_toLex]
  | .finite .positive m e hm, .finite .positive n f hn, ⟨_, hv, hme⟩, ⟨ht, hw, hnf⟩ =>
    dsimp only [placeOf]
    simp [hv, hw, ← ht, hme.lt_iff_lex hnf, Prod.Lex.toLex_lt_toLex]

/-- **The order of numbers**, the first of which is not below zero. -/
theorem IsNumber.lt_iff (hx : IsNumber .positive v x) (hy : IsNumber t w y) :
    x < y ↔ t = .positive ∧ v < w := by
  rw [Tariff.Number.lt_iff (isNaN_eq_false_of_isFinite hx.isFinite)
    (isNaN_eq_false_of_isFinite hy.isFinite)]
  exact IsNumberApart.placeOf_lt_iff hx hy

/-- A product that is finite with a factor above one is finite without it. -/
lemma isFinite_mul_of_greater {z : Float} (h : (x * y * z).isFinite = true) (hy : 1.0 < y) :
    (x * z).isFinite = true := by
  obtain ⟨hxy, hz⟩ := isFinite_of_mul h
  obtain ⟨hx, hyfinite⟩ := isFinite_of_mul hxy
  obtain ⟨s, v, hx⟩ := exists_isNumber hx
  obtain ⟨t, w, hyw⟩ := exists_isNumber hyfinite
  obtain ⟨r, u, hz⟩ := exists_isNumber hz
  obtain ⟨-, hw⟩ := (isNumber_one.lt_iff hyw).1 hy
  have hproduct := hx.mul hyw ((hx.isFinite_mul_iff hyw).1 hxy)
  have hgreater : v ≤ rounded (v * w) := by
    have hle := rounded_mono hx.nonneg (le_mul_of_one_le_right hx.nonneg hw.le)
    rwa [hx.rounded_eq] at hle
  rw [hproduct.isFinite_mul_iff hz] at h
  rw [hx.isFinite_mul_iff hz]
  exact (rounded_mono (mul_nonneg hx.nonneg hz.nonneg)
    (mul_le_mul_of_nonneg_right hgreater hz.nonneg)).trans_lt h

/-- Numbers from zero on are equal iff their magnitudes are. -/
lemma IsNumber.beq_iff (hx : IsNumber .positive v x) (hy : IsNumber .positive w y) :
    x == y ↔ v = w := by
  have hxy := hx.lt_iff hy
  have hyx := hy.lt_iff hx
  have hnx := isNaN_eq_false_of_isFinite hx.isFinite
  have hny := isNaN_eq_false_of_isFinite hy.isFinite
  rw [Tariff.Number.lt_iff hnx hny] at hxy
  rw [Tariff.Number.lt_iff hny hnx] at hyx
  rw [Tariff.Number.beq_iff hnx hny, le_antisymm_iff, ← not_lt, ← not_lt, hxy, hyx]
  simp [le_antisymm_iff]

/-- A number that is taken apart has one form. -/
lemma IsNumberApart.eq {a b : UnpackedFloat} (ha : IsNumberApart s v a) (hb : IsNumberApart s v b) :
    a = b := by
  match a, b, ha, hb with
  | .zero _, .zero _, ⟨hs, _⟩, ⟨ht, _⟩ => rw [hs, ht]
  | .zero _, .finite _ m e hm, ⟨_, hzero⟩, ⟨_, hv, _⟩
  | .finite _ m e hm, .zero _, ⟨_, hv, _⟩, ⟨_, hzero⟩ =>
    have hpos : (0 : ℚ) < m * 2 ^ e := mul_pos (by exact_mod_cast hm) (two_zpow_pos e)
    exact absurd (hzero.symm.trans hv) hpos.ne
  | .finite _ m e _, .finite _ n f _, ⟨hs, hv, hm⟩, ⟨ht, hw, hn⟩ =>
    have hless := hm.lt_iff_lex hn
    have hmore := hn.lt_iff_lex hm
    rw [← hv, ← hw, lt_self_iff_false, false_iff] at hless hmore
    obtain ⟨rfl, rfl⟩ : e = f ∧ m = n := by omega
    subst hs
    subst ht
    rfl

/-- Numbers of one magnitude are one double after zero is added to them, if they have one sign or
are zero. -/
lemma IsNumber.add_zero_congr (hx : IsNumber s v x) (hy : IsNumber t v y) (h : v ≠ 0 → s = t) :
    x + 0.0 = y + 0.0 := by
  have hzero : ∀ {r : Sign} {a : UnpackedFloat}, IsNumberApart r 0 a →
      a.add .binary64 (.zero .positive) = .zero .positive := by
    intro r a ha
    rw [IsNumberApart.eq ha (show IsNumberApart r 0 (.zero r) from ⟨rfl, rfl⟩)]
    cases r <;> rfl
  have hsum : x.toModel.unpack.add .binary64 (.zero .positive) =
      y.toModel.unpack.add .binary64 (.zero .positive) := by
    by_cases hv : v = 0
    · rw [IsNumber, hv] at hx hy
      rw [hzero hx, hzero hy]
    · rw [IsNumber, h hv] at hx
      rw [IsNumberApart.eq hx hy]
  exact congrArg (fun a => Float.ofModel (Float.Model.pack a)) hsum

/-- The magnitude of a number is told by its double. -/
lemma IsNumber.unique (hx : IsNumber s v x) (hy : IsNumber t w x) : s = t ∧ v = w :=
  IsNumberApart.unique hx hy

/-- A quotient is finite iff it is within range. -/
lemma IsNumber.isFinite_div_iff (hx : IsNumber s v x) (hy : IsNumber t w y) (hw : w ≠ 0) :
    (x / y).isFinite = true ↔ rounded (v / w) < 2 ^ (1024 : ℤ) :=
  isFinite_pack_iff (IsNumberApart.div hx hy hw)

/-- What zero is added to is finite if the sum is. -/
lemma isFinite_of_add_zero (h : (x + 0.0).isFinite = true) : x.isFinite = true := by
  have hapart : ∀ a : UnpackedFloat, (a.add .binary64 (.zero .positive)).isFinite = true →
      a.isFinite = true := by
    intro a h
    cases a <;> first | rfl | exact absurd h Bool.false_ne_true
  exact hapart _ (isFinite_of_isFinite_pack h)

/-- A double with a sign is finite iff it is finite. -/
lemma isFinite_withSign_iff : (withSign x y).isFinite = true ↔ x.isFinite = true := by
  rw [withSign]
  split
  · exact isFinite_neg_iff
  · rfl

end

end Tariff.Number
