import Mathlib.Algebra.Group.Nat.Defs
import Mathlib.Tactic.Lemma

/-!
# Magnitudes of doubles

An operation on doubles whose magnitudes are bounded has a result whose magnitude is bounded: the
exact result has a bound, and rounding at most doubles it. So a computation of a few steps on
numbers that are not too large has a finite result.

## Main definitions

* `Tariff.Number.Fits` — a bound for a whole number times a power of two.
* `Tariff.Number.IsBelow` — a bound for the magnitude of a double; infinities have none.

## Main results

* `Tariff.Number.isBelow_roundWithAccuracy` — rounding.
* `Tariff.Number.isBelow_unpack_pack` — writing a double down in bits.
* `Tariff.Number.IsBelow.add`, `Tariff.Number.IsBelow.mul`, `Tariff.Number.IsBelow.div` — the
  operations.

## Design

All bounds are powers of two, and a bound for `m * 2 ^ e` is one for `m` alone, since the exponent
is known. No bound is tight: a step adds at most two to the power.
-/

set_option autoImplicit false

namespace Tariff.Number

open Float.Model Float.Model.UnpackedFloat

/-! ### Whole numbers times powers of two -/

/-- A whole number times a power of two is less than a power of two, and its exponent is not
above. -/
structure Fits (bound : Int) (m : Nat) (e : Int) : Prop where
  exponent_le : e ≤ bound
  lt_pow : m < 2 ^ (bound - e).toNat

section

variable {b c e f t : Int} {m n k : Nat}

/-- A bound can be raised. -/
lemma Fits.mono (h : Fits b m e) (hbc : b ≤ c) : Fits c m e :=
  ⟨Int.le_trans h.exponent_le hbc,
    Nat.lt_of_lt_of_le h.lt_pow (Nat.pow_le_pow_right Nat.two_pos (by omega))⟩

/-- The exponent is below the bound if the number is not zero. -/
lemma Fits.exponent_lt (h : Fits b m e) (hm : 0 < m) : e < b := by
  rcases Int.lt_or_le e b with hlt | hle
  · exact hlt
  · have hzero : (b - e).toNat = 0 := by omega
    have hone := h.lt_pow
    rw [hzero] at hone
    omega

/-- A smaller number has the same bound. -/
lemma Fits.of_le (h : Fits b m e) (hnm : n ≤ m) : Fits b n e :=
  ⟨h.exponent_le, Nat.lt_of_le_of_lt hnm h.lt_pow⟩

/-- A shift to the right keeps the bound, if the new exponent is not above it. -/
lemma Fits.shiftRight (h : Fits b m e) (hk : e + k ≤ b) : Fits b (m / 2 ^ k) (e + k) := by
  refine ⟨hk, (Nat.div_lt_iff_lt_mul (Nat.two_pow_pos k)).2 ?_⟩
  rw [← Nat.pow_add]
  have hexp : (b - (e + k)).toNat + k = (b - e).toNat := by omega
  rw [hexp]
  exact h.lt_pow

/-- A shift to the left keeps the bound. -/
lemma Fits.shiftLeft (h : Fits b m e) (k : Nat) : Fits b (m <<< k) (e - k) := by
  have hle := h.exponent_le
  refine ⟨by omega, ?_⟩
  have hexp : (b - (e - k)).toNat = (b - e).toNat + k := by omega
  rw [Nat.shiftLeft_eq, hexp, Nat.pow_add]
  exact Nat.mul_lt_mul_of_pos_right h.lt_pow (Nat.two_pow_pos k)

/-- Up to twice as much has a bound of one more. -/
lemma Fits.of_lt_two_mul (h : e ≤ b) (hm : m < 2 ^ (b - e).toNat * 2) : Fits (b + 1) m e := by
  refine ⟨by omega, ?_⟩
  have hexp : (b + 1 - e).toNat = (b - e).toNat + 1 := by omega
  rwa [hexp, Nat.pow_succ]

/-- A sum of two has a bound of one more. -/
lemma Fits.add (hm : Fits b m e) (hn : Fits b n e) : Fits (b + 1) (m + n) e := by
  have hmlt := hm.lt_pow
  have hnlt := hn.lt_pow
  exact .of_lt_two_mul hm.exponent_le (by omega)

/-- The next number has a bound of one more. -/
lemma Fits.succ (h : Fits b m e) : Fits (b + 1) (m + 1) e := by
  have hlt := h.lt_pow
  exact .of_lt_two_mul h.exponent_le (by omega)

/-- A product has the sum of the bounds. -/
lemma Fits.mul (hm : Fits b m e) (hn : Fits c n f) : Fits (b + c) (m * n) (e + f) := by
  have hmle := hm.exponent_le
  have hnle := hn.exponent_le
  refine ⟨by omega, ?_⟩
  have hexp : (b + c - (e + f)).toNat = (b - e).toNat + (c - f).toNat := by omega
  rw [hexp, Nat.pow_add]
  exact Nat.mul_lt_mul'' hm.lt_pow hn.lt_pow

/-! ### Rounding -/

/-- Shifts of a significand are divisions. -/
lemma mantissa_shiftRight (em : ExtendedMantissa) (k : Nat) :
    (em >>> k).mantissa = em.mantissa / 2 ^ k := by
  induction k with
  | zero => exact (Nat.div_one _).symm
  | succ k ih =>
    change (em >>> k).mantissa / 2 = _
    rw [ih, Nat.div_div_eq_div_mul, Nat.pow_succ]

/-- Rounding adds at most one to a significand. -/
lemma roundedMantissa_le (em : ExtendedMantissa) : em.roundedMantissa ≤ em.mantissa + 1 := by
  rw [ExtendedMantissa.roundedMantissa]
  rcases em.accuracy with _ | _ | _ | _ <;> simp only [Accuracy.roundToNearestEven] <;> omega

/-- The exponent that rounding is for is not above the bound. -/
lemma targetExponent_le (h : Fits b m e) (hb : -1074 ≤ b) :
    Format.binary64.targetExponent (totalExponent m e) ≤ b := by
  have hle := h.exponent_le
  have hlog : (m.log2 : Int) + 1 + e - 53 ≤ b := by
    rcases Nat.eq_zero_or_pos m with rfl | hm
    · rw [Nat.log2_zero]
      omega
    · have hlt := (Nat.log2_lt (by omega)).2 h.lt_pow
      omega
  rw [Format.targetExponent, totalExponent]
  exact Int.max_le.2 ⟨hlog, hb⟩

/-- The shift before rounding keeps the bound. -/
lemma fits_shiftToTargetExponent (h : Fits b m e) (hb : -1074 ≤ b) (acc : Accuracy) :
    Fits b (shiftToTargetExponent .binary64 m e acc).1.mantissa
      (shiftToTargetExponent .binary64 m e acc).2 := by
  have hle := h.exponent_le
  have htarget := targetExponent_le h hb
  have hm : (ExtendedMantissa.ofMantissaAndAccuracy m acc).mantissa = m := by
    rcases acc with _ | _ | _ | _ <;> rfl
  simp only [shiftToTargetExponent, shiftToExponent, mantissa_shiftRight, hm]
  exact h.shiftRight (by omega)

end

/-! ### Doubles taken apart -/

/-- A double that is taken apart is finite, and its magnitude is less than a power of two. -/
def IsBelowApart (bound : Int) : UnpackedFloat → Prop
  | .zero _ => True
  | .finite _ m e _ => Fits bound m e
  | _ => False

section

variable {b c e : Int} {m : Nat} {s : Sign} {x y : UnpackedFloat}

/-- A double that is chosen by a condition has the properties that both choices have. -/
lemma of_dite {P : UnpackedFloat → Prop} {q : Prop} [Decidable q] {y : q → UnpackedFloat}
    {z : ¬q → UnpackedFloat} (hy : ∀ h, P (y h)) (hz : ∀ h, P (z h)) :
    P (if h : q then y h else z h) := by
  by_cases h : q
  · rw [dif_pos h]
    exact hy h
  · rw [dif_neg h]
    exact hz h

/-- **Rounding** at most doubles a number. -/
lemma isBelow_roundWithAccuracy (h : Fits b m e) (hb : -1074 ≤ b) (acc : Accuracy) :
    IsBelowApart (b + 1) (roundWithAccuracy .binary64 s m e acc) := by
  have hfirst := fits_shiftToTargetExponent h hb acc
  have hrounded := hfirst.succ.of_le (roundedMantissa_le _)
  have hsecond := fits_shiftToTargetExponent hrounded (by omega) .exact
  exact of_dite (fun _ => trivial) fun _ => hsecond

/-- Rounding at most doubles a number, whatever its exponent is. -/
lemma isBelow_round (h : Fits b m e) (hb : -1074 ≤ b) :
    IsBelowApart (b + 1) (UnpackedFloat.round .binary64 s m e) := by
  simp only [UnpackedFloat.round, decreaseExponent]
  exact isBelow_roundWithAccuracy (h.shiftLeft _) hb .exact

/-- Rounding at most doubles a number, whatever its sign is. -/
lemma isBelow_normalize {n : Int} (h : Fits b n.natAbs e) (hb : -1074 ≤ b) :
    IsBelowApart (b + 1) (UnpackedFloat.normalize .binary64 n e s) := by
  rw [UnpackedFloat.normalize]
  split
  · exact isBelow_round (h.of_le (by omega)) hb
  · trivial
  · exact isBelow_round (h.of_le (by omega)) hb

/-- A bound can be raised. -/
lemma IsBelowApart.mono (h : IsBelowApart b x) (hbc : b ≤ c) : IsBelowApart c x := by
  cases x with
  | zero s => trivial
  | finite s m e hm => exact Fits.mono h hbc
  | infinity s => exact h
  | notANumber => exact h

/-- A number and its opposite have the same bounds. -/
lemma IsBelowApart.neg (h : IsBelowApart b x) : IsBelowApart b x.neg := by
  cases x <;> exact h

/-- A sum of numbers with signs is at most that of the numbers. -/
lemma natAbs_apply_add_apply_le {t : Sign} {m n : Nat} :
    (s.apply m + t.apply n).natAbs ≤ m + n := by
  cases s <;> cases t <;> simp only [Sign.apply] <;> omega

/-- A sum has a bound of two more. -/
lemma IsBelowApart.add (hx : IsBelowApart b x) (hy : IsBelowApart b y) (hb : -1074 ≤ b) :
    IsBelowApart (b + 2) (x.add .binary64 y) := by
  match x, y, hx, hy with
  | .zero s, .zero t, _, _ =>
    exact of_dite (fun _ => trivial) fun _ => trivial
  | .zero _, .finite .., _, hy => exact hy.mono (by omega)
  | .finite .., .zero _, hx, _ => exact hx.mono (by omega)
  | .finite s m e hm, .finite t n f hn, hx, hy =>
    have hm' := Fits.shiftLeft hx (e - min e f).toNat
    have hn' := Fits.shiftLeft hy (f - min e f).toNat
    rw [show e - ((e - min e f).toNat : Int) = min e f by omega] at hm'
    rw [show f - ((f - min e f).toNat : Int) = min e f by omega] at hn'
    have hsum := (hm'.add hn').of_le (natAbs_apply_add_apply_le (s := s) (t := t))
    have hnormal := isBelow_normalize (s := .positive) hsum (by omega)
    rwa [Int.add_assoc] at hnormal

/-- A product has a bound of one more than the sum of the bounds. -/
lemma IsBelowApart.mul (hx : IsBelowApart b x) (hy : IsBelowApart c y) (hb : -1074 ≤ b + c) :
    IsBelowApart (b + c + 1) (x.mul .binary64 y) := by
  match x, y, hx, hy with
  | .zero s, .zero t, _, _ | .zero _, .finite .., _, _ | .finite .., .zero _, _, _ => trivial
  | .finite s m e hm, .finite t n f hn, hx, hy =>
    exact isBelow_roundWithAccuracy (Fits.mul hx hy) hb .exact

/-- A quotient has a bound of one more than the bound less the exponent of the divisor. -/
lemma IsBelowApart.div {n : Nat} {f : Int} {hn : 0 < n} (hx : IsBelowApart b x)
    (hb : -1074 ≤ b - f) : IsBelowApart (b - f + 1) (x.div .binary64 (.finite s n f hn)) := by
  match x, hx with
  | .zero _, _ => trivial
  | .finite t m e hm, hx =>
    let target :=
      min (e - f) (Format.binary64.targetExponent (totalExponent m e - totalExponent n f))
    have hexp := hx.exponent_le
    have htarget : target ≤ e - f := Int.min_le_left _ _
    have hquotient : Fits (b - f) ((m <<< (e - f - target).toNat) / n) target := by
      refine ⟨by omega, Nat.lt_of_le_of_lt (Nat.div_le_self _ _) ?_⟩
      have hshift := (Fits.shiftLeft hx (e - f - target).toNat).lt_pow
      have hpow : b - (e - ((e - f - target).toNat : Int)) = b - f - target := by omega
      rwa [hpow] at hshift
    exact isBelow_roundWithAccuracy hquotient hb _

/-- What is read from bits has a bound if it has the bound by the fields of the bits. -/
lemma isBelow_unpack {bits : BitVec Format.binary64.numBits} (hlow : -1022 ≤ b)
    (hmax : unpackExponent bits ≠ -1#_)
    (hnormal : unpackExponent bits ≠ 0#_ → Fits b (2 ^ 52 + (unpackMantissa bits).toNat)
      ((unpackExponent bits).toNat - 1075)) :
    IsBelowApart b (UnpackedFloat.unpack .binary64 bits) := by
  have hsmall : Fits b (unpackMantissa bits).toNat (-1074) :=
    ⟨by omega, Nat.lt_of_lt_of_le (unpackMantissa bits).isLt
      (Nat.pow_le_pow_right Nat.two_pos (show 52 ≤ (b - -1074).toNat by omega))⟩
  refine of_dite (fun h => absurd h hmax) fun _ => ?_
  refine of_dite (fun hzero => ?_) fun hzero => ?_
  · refine of_dite (fun _ => trivial) fun _ => ?_
    change Fits b _ _
    rw [hzero]
    exact hsmall
  · change Fits b _ _
    rw [BitVec.toNat_append, ← Nat.shiftLeft_add_eq_or_of_lt (unpackMantissa bits).isLt]
    exact hnormal hzero

/-- A finite double in bits: one with a full significand is normal. -/
lemma pack_finite {hm : 0 < m} (he : e ≤ 971) : UnpackedFloat.pack .binary64 (.finite s m e hm) =
    if m.log2 + 1 = 53 then
      packComponents .binary64 s (BitVec.ofNat 11 (e + 1023 + 52).toNat) (BitVec.ofNat 52 m)
    else packComponents .binary64 s 0#11 (BitVec.ofNat 52 m) :=
  if_neg (show ¬2048 ≤ (e + 1023 + 52).toNat + 1 by omega)

/-- A bounded double that is written down in bits has the same bound, if that is neither too large
nor too small. -/
lemma isBelow_unpack_pack (h : IsBelowApart b x) (hlow : -1022 ≤ b) (hhigh : b ≤ 972) :
    IsBelowApart b (UnpackedFloat.unpack .binary64 (UnpackedFloat.pack .binary64 x)) := by
  have hsubnormal : ∀ s (fraction : BitVec 52), IsBelowApart b
      (UnpackedFloat.unpack .binary64 (packComponents .binary64 s 0#11 fraction)) := by
    intro s fraction
    refine isBelow_unpack hlow ?_ fun hne => ?_
    · rw [unpackExponent_packComponents]
      decide
    · rw [unpackExponent_packComponents] at hne
      exact absurd rfl hne
  match x, h with
  | .zero s, _ => exact hsubnormal s 0#52
  | .finite s m e hm, h =>
    have hlt := h.exponent_lt hm
    rw [pack_finite (by omega)]
    split
    · rename_i hbits
      have hlog : m.log2 = 52 := by omega
      obtain ⟨hle, hltpow⟩ := (Nat.log2_eq_iff (by omega)).1 hlog
      have hmod : 2 ^ 52 + m % 2 ^ 52 = m := by omega
      have hfield : (BitVec.ofNat 11 (e + 1023 + 52).toNat).toNat = (e + 1023 + 52).toNat := by
        rw [BitVec.toNat_ofNat]
        omega
      refine isBelow_unpack hlow ?_ fun hne => ?_
      · rw [unpackExponent_packComponents, ne_eq, ← BitVec.toNat_inj, hfield]
        change ¬_ = 2047
        omega
      · rw [unpackExponent_packComponents, ne_eq, ← BitVec.toNat_inj, hfield] at hne
        change ¬_ = 0 at hne
        rw [unpackMantissa_packComponents, unpackExponent_packComponents, hfield,
          BitVec.toNat_ofNat, hmod]
        have hexp : ((e + 1023 + 52).toNat : Int) - 1075 = e := by omega
        rw [hexp]
        exact h
    · exact hsubnormal s _

end

/-! ### Doubles -/

/-- A double is finite, and its magnitude is less than a power of two. -/
def IsBelow (bound : Int) (x : Float) : Prop :=
  IsBelowApart bound x.toModel.unpack

section

variable {b c : Int} {x y : Float} {n k : Nat}

/-- A bounded double is finite. -/
lemma IsBelow.isFinite (h : IsBelow b x) : x.isFinite = true := by
  rw [Float.isFinite, Float.Model.isFinite]
  rw [IsBelow] at h
  cases hx : x.toModel.unpack with
  | zero s => rfl
  | finite s m e hm => rfl
  | infinity s => rw [hx] at h; exact h.elim
  | notANumber => rw [hx] at h; exact h.elim

/-- A bound can be raised. -/
lemma IsBelow.mono (h : IsBelow b x) (hbc : b ≤ c) : IsBelow c x :=
  IsBelowApart.mono h hbc

/-- A number and its opposite have the same bounds. -/
lemma IsBelow.neg (h : IsBelow b x) (hlow : -1022 ≤ b) (hhigh : b ≤ 972) : IsBelow b (-x) :=
  isBelow_unpack_pack (IsBelowApart.neg h) hlow hhigh

/-- A sum has a bound of two more. -/
lemma IsBelow.add (hx : IsBelow b x) (hy : IsBelow b y) (hlow : -1022 ≤ b) (hhigh : b ≤ 970) :
    IsBelow (b + 2) (x + y) :=
  isBelow_unpack_pack (IsBelowApart.add hx hy (by omega)) (by omega) (by omega)

/-- A product has a bound of one more than the sum of the bounds. -/
lemma IsBelow.mul (hx : IsBelow b x) (hy : IsBelow c y) (hlow : -1022 ≤ b + c)
    (hhigh : b + c ≤ 971) : IsBelow (b + c + 1) (x * y) :=
  isBelow_unpack_pack (IsBelowApart.mul hx hy (by omega)) (by omega) (by omega)

/-- The double of a word is less than a power of two if the word is. -/
lemma isBelow_toFloat {n : UInt64} (h : n.toNat < 2 ^ k) (hk : k ≤ 971) :
    IsBelow (k + 1) n.toFloat :=
  isBelow_unpack_pack (isBelow_normalize ⟨by omega, by simpa using h⟩ (by omega)) (by omega)
    (by omega)

/-- A quotient has a bound of one more than the bound less the exponent of the divisor. -/
lemma IsBelow.div {s : Sign} {m : Nat} {f : Int} {hm : 0 < m} (hx : IsBelow b x)
    (hy : y.toModel.unpack = .finite s m f hm) (hlow : -1022 ≤ b - f) (hhigh : b - f ≤ 971) :
    IsBelow (b - f + 1) (x / y) := by
  have h : IsBelowApart (b - f + 1) (x.toModel.unpack.div .binary64 y.toModel.unpack) := by
    rw [hy]
    exact IsBelowApart.div hx (by omega)
  exact isBelow_unpack_pack h (by omega) (by omega)

/-- The double of a whole number is bounded if the number is. -/
lemma isBelow_ofNat (h : n < 2 ^ k) (hk : k ≤ 53) : IsBelow (k + 3) (Float.ofNat n) := by
  have hexact : n < 2 ^ 53 ∧ 0 ≤ 22 :=
    ⟨Nat.lt_of_lt_of_le h (Nat.pow_le_pow_right Nat.two_pos hk), by omega⟩
  have hword : n.toUInt64.toNat < 2 ^ k := Nat.lt_of_le_of_lt (Nat.mod_le _ _) h
  have hone : IsBelow 1 (Float.ofBits 0x3FF0000000000000) := ⟨by decide, by decide⟩
  change IsBelow _ (Float.ofScientific n false 0)
  rw [Float.ofScientific, dif_pos hexact]
  exact ((isBelow_toFloat hword (by omega)).mul hone (by omega) (by omega)).mono (by omega)

/-- The double of an integer is bounded if the integer is. -/
lemma isBelow_ofInt {n : Int} (h : n.natAbs < 2 ^ k) (hk : k ≤ 53) :
    IsBelow (k + 3) (Float.ofInt n) := by
  cases n with
  | ofNat n => exact isBelow_ofNat h hk
  | negSucc n => exact (isBelow_ofNat h hk).neg (by omega) (by omega)

/-- A million taken apart. -/
lemma unpack_million : (1e6 : Float).toModel.unpack =
    .finite .positive 0x1E848000000000 (-33) (by decide) :=
  rfl

/-- A number of millionths that is taken apart is bounded if the number is. -/
lemma isBelow_ofScientific_apart (h : n < 2 ^ k) :
    IsBelowApart (k - 0 + 1) (UnpackedFloat.ofScientific .binary64 n (-6)) := by
  refine of_dite (fun _ => trivial) fun hn => ?_
  rw [if_neg (by decide)]
  refine of_dite (fun _ => trivial) fun _ => ?_
  rw [if_neg (by decide)]
  have hfits : IsBelowApart k (.finite .positive n 0 (Nat.pos_of_ne_zero hn)) :=
    ⟨by omega, by simpa using h⟩
  exact hfits.div (by omega)

/-- The double nearest to a number of millionths is bounded if the number is. -/
lemma isBelow_ofScientific (h : n < 2 ^ k) (hk : k ≤ 900) :
    IsBelow (k + 35) (Float.ofScientific n true 6) := by
  rw [Float.ofScientific]
  split
  · have hword : n.toUInt64.toNat < 2 ^ k := Nat.lt_of_le_of_lt (Nat.mod_le _ _) h
    exact ((isBelow_toFloat hword (by omega)).div unpack_million (by omega) (by omega)).mono
      (by omega)
  · exact isBelow_unpack_pack ((isBelow_ofScientific_apart h).mono (by omega)) (by omega) (by omega)

end

end Tariff.Number
