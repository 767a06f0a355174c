import Tariff.Number.Binary
import Tariff.Proofs.Number.Magnitude

/-!
# Doubles within range

A finite double is a number of at most 53 binary digits times a power of two within range. So are
the whole numbers beside it.

## Main definitions

* `Tariff.Number.IsInRange` — a double that is taken apart into two numbers within range.

## Main results

* `Tariff.Number.isInRange_unpack_iff` — the finite doubles are those within range.
* `Tariff.Number.exists_of_floor?` — the whole number below a double.
* `Tariff.Number.exists_truncation?` — a finite double has a whole part.
-/

set_option autoImplicit false

namespace Tariff.Number

open Float.Model Float.Model.UnpackedFloat

/-- A double that is taken apart is zero, or a number of at most 53 binary digits times a power of
two within range. -/
def IsInRange : UnpackedFloat → Prop
  | .zero _ => True
  | .finite _ m e _ => m < 2 ^ 53 ∧ e ≤ 971
  | _ => False

/-! ### Bits -/

section

variable {bits : BitVec Format.binary64.numBits}

/-- What is read from bits is within range, unless all bits of its exponent are set. -/
lemma isInRange_unpack (h : unpackExponent bits ≠ -1#_) :
    IsInRange (UnpackedFloat.unpack .binary64 bits) := by
  have hne : (unpackExponent bits).toNat ≠ 2047 := fun heq => h (BitVec.eq_of_toNat_eq heq)
  have hexponent : (unpackExponent bits).toNat < 2048 := (unpackExponent bits).isLt
  have hmantissa : (unpackMantissa bits).toNat < 2 ^ 52 := (unpackMantissa bits).isLt
  refine of_dite (fun hmax => absurd hmax h) fun _ => ?_
  refine of_dite (fun hzero => ?_) fun _ => ?_
  · have hzero : (unpackExponent bits).toNat = 0 := by rw [hzero]; rfl
    refine of_dite (fun _ => trivial) fun _ => ⟨by omega, ?_⟩
    change ((unpackExponent bits).toNat : Int) - 1075 + 1 ≤ 971
    omega
  · refine ⟨(1#1 ++ unpackMantissa bits).isLt, ?_⟩
    change ((unpackExponent bits).toNat : Int) - 1075 ≤ 971
    omega

end

/-! ### Doubles -/

section

variable {x : Float} {m : Nat}

/-- Not all bits of the exponent of a finite double are set. -/
lemma unpackExponent_ne (h : x.isFinite = true) :
    @unpackExponent .binary64 x.toModel.toBits.toBitVec ≠ -1#_ := by
  intro hmax
  have hunpack : x.toModel.unpack.isFinite = false := by
    refine of_dite (P := fun u => u.isFinite = false) (fun _ => ?_) fun hne => absurd hmax hne
    exact of_dite (P := fun u => u.isFinite = false) (fun _ => rfl) fun _ => rfl
  have hfinite : x.toModel.unpack.isFinite = true := h
  simp [hunpack] at hfinite

/-- The finite doubles are those within range. -/
lemma isInRange_unpack_iff : IsInRange x.toModel.unpack ↔ x.isFinite = true := by
  constructor
  · intro h
    change x.toModel.unpack.isFinite = true
    cases hx : x.toModel.unpack with
    | zero s => rfl
    | finite s m e hm => rfl
    | infinity s =>
      rw [hx] at h
      exact h.elim
    | notANumber =>
      rw [hx] at h
      exact h.elim
  · intro h
    exact isInRange_unpack (unpackExponent_ne h)

/-! ### Whole numbers beside a double -/

/-- The parts of a finite double are within range. -/
lemma Binary.of_ofFloat {negative : Bool} {e : Int} (h : Binary.ofFloat x = .finite negative m e) :
    m < 2 ^ 53 ∧ e ≤ 971 := by
  have hfraction : x.toBits.toNat % twoPow 52 < 2 ^ 52 := Nat.mod_lt _ (by decide)
  have hfield : x.toBits.toNat / twoPow 52 % twoPow 11 < 2048 := Nat.mod_lt _ (by decide)
  have hpow : twoPow 52 = 2 ^ 52 := rfl
  simp only [Binary.ofFloat] at h
  split at h
  · split at h <;> cases h
  · split at h
    · cases h
      omega
    · cases h
      omega

/-- The bits of the exponent of a double are a field of its bits. -/
lemma unpackExponent_toNat : (@unpackExponent .binary64 x.toModel.toBits.toBitVec).toNat =
    x.toBits.toNat / twoPow 52 % twoPow 11 := by
  change (BitVec.extractLsb 62 52 x.toModel.toBits.toBitVec).toNat = _
  rw [BitVec.extractLsb_toNat, Nat.shiftRight_eq_div_pow]
  rfl

/-- A finite double is a whole number times a power of two. -/
lemma Binary.exists_ofFloat (h : x.isFinite = true) :
    ∃ negative m e, Binary.ofFloat x = .finite negative m e := by
  have hfield : x.toBits.toNat / twoPow 52 % twoPow 11 ≠ 2047 := by
    rw [← unpackExponent_toNat]
    exact fun heq => unpackExponent_ne h (BitVec.eq_of_toNat_eq heq)
  simp only [Binary.ofFloat, if_neg hfield]
  split <;> exact ⟨_, _, _, rfl⟩

/-- A finite double has a whole part. -/
lemma exists_truncation? (h : x.isFinite = true) : ∃ i, truncation? x = some i := by
  obtain ⟨negative, m, e, hx⟩ := Binary.exists_ofFloat h
  exact ⟨_, by rw [truncation?, ratio?, hx]; rfl⟩

/-- The whole number below a number that is scaled by a power of two: the number itself if that is
one from zero on, and else one that is not greater. -/
lemma natAbs_floor_scaled (i e : Int) : (Ratio.scaled i e).floor.natAbs = i.natAbs * 2 ^ e.toNat ∨
    (Ratio.scaled i e).floor.natAbs ≤ i.natAbs := by
  rw [Ratio.floor, Ratio.scaled]
  rcases Int.lt_or_le e 0 with hneg | hwhole
  · have hone : (twoPow e.toNat : Int) = 1 := by
      rw [show e.toNat = 0 by omega]
      rfl
    refine .inr ?_
    rw [hone, Int.mul_one, Int.fdiv_eq_ediv_of_nonneg _ (Int.natCast_nonneg _)]
    exact Int.natAbs_ediv_le_natAbs _ _
  · have hone : (twoPow (-e).toNat : Int) = 1 := by
      rw [show (-e).toNat = 0 by omega]
      rfl
    refine .inl ?_
    rw [hone, Int.fdiv_one, Int.natAbs_mul, Int.natAbs_natCast]
    rfl

/-- The whole number below a double has at most 53 binary digits, times a power of two within
range. -/
lemma exists_of_floor? {i : Int} (h : floor? x = some i) :
    ∃ m k, i.natAbs = m * 2 ^ k ∧ m < 2 ^ 53 ∧ k ≤ 971 := by
  rw [floor?, ratio?] at h
  cases hx : Binary.ofFloat x with
  | nan => simp [hx] at h
  | infinite negative => simp [hx] at h
  | finite negative m e =>
    obtain ⟨hm, he⟩ := Binary.of_ofFloat hx
    simp only [hx, Option.map_some, Option.some.injEq] at h
    have hsign : (if negative then -(m : Int) else m).natAbs = m := by cases negative <;> simp
    subst h
    rcases natAbs_floor_scaled (if negative then -(m : Int) else m) e with h | h
    · exact ⟨m, e.toNat, by rw [h, hsign], hm, by omega⟩
    · exact ⟨_, 0, by rw [Nat.pow_zero, Nat.mul_one], by omega, by omega⟩

end

end Tariff.Number
