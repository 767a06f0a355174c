import Mathlib.Data.Nat.Digits.Lemmas
import Tariff.Number.Numeral
import Tariff.Proofs.Number.Arithmetic

/-!
# Decimals as doubles

A decimal is read as the double nearest to it. Up to the greatest powers of ten that are doubles
themselves one operation on doubles is enough, and beyond them the digits are multiplied or divided
before they are rounded. A decimal from the midpoint after the greatest double on is read as an
infinity.

## Main definitions

* `Tariff.Number.overflowBound` — the least number that is rounded to one beyond the doubles.
* `Tariff.Number.decimal?` — the digits and the exponent of a decimal.

## Main results

* `Tariff.Number.rounded_lt_iff` — which numbers are rounded to doubles.
* `Tariff.Number.exists_ofScientific` — a decimal is rounded to the nearest binary number.
* `Tariff.Number.isFinite_nearest_iff`, `Tariff.Number.isFinite_of_readDecimal?` — which decimals
  are read as finite doubles.
-/

set_option autoImplicit false

namespace Tariff.Number

open Float.Model Float.Model.UnpackedFloat

/-! ### The bound of the doubles -/

section

variable {v : ℚ}

/-- The least number that is rounded to one beyond the doubles: it is as near to the greatest double
as to the next power of two. -/
def overflowBound : ℚ :=
  2 ^ (1024 : ℤ) - 2 ^ (970 : ℤ)

/-- The bound and the powers of two next to it, counted in half the unit of the greatest doubles. -/
lemma exists_overflowBound_eq : ∃ p : ℚ, 0 < p ∧ (2 : ℚ) ^ (971 : ℤ) = 2 * p ∧
    (2 : ℚ) ^ (1023 : ℤ) = 2 ^ 53 * p ∧ (2 : ℚ) ^ (1024 : ℤ) = 2 ^ 54 * p ∧
    overflowBound = (2 ^ 54 - 1) * p := by
  have hpow : ∀ k : ℕ, (2 : ℚ) ^ ((k : ℤ) + 970) = 2 ^ k * 2 ^ (970 : ℤ) := fun k => by
    rw [zpow_add₀ (by norm_num), zpow_natCast]
  have htop : (2 : ℚ) ^ (1024 : ℤ) = 2 ^ 54 * 2 ^ (970 : ℤ) := hpow 54
  refine ⟨2 ^ (970 : ℤ), two_zpow_pos _, (hpow 1).trans (by rw [pow_one]), hpow 53, htop, ?_⟩
  rw [overflowBound, htop, sub_mul, one_mul]

/-- The bound is rounded to the power of two after it. -/
lemma rounded_overflowBound : rounded overflowBound = 2 ^ (1024 : ℤ) := by
  obtain ⟨p, hpos, hunit, hlow, hhigh, hbound⟩ := exists_overflowBound_eq
  have heq : unit overflowBound = 971 := by
    refine unit_eq (e := 971) ?_ ?_ (by decide)
    · change (2 : ℚ) ^ (1023 : ℤ) ≤ _
      rw [hlow, hbound]
      linarith only [hpos]
    · change _ < (2 : ℚ) ^ (1024 : ℤ)
      rw [hhigh, hbound]
      linarith only [hpos]
  have hcount : overflowBound / 2 ^ (971 : ℤ) = 2 ^ 53 - 1 / 2 := by
    rw [div_eq_iff (two_zpow_pos _).ne', hunit, hbound]
    ring
  have hfloor : ⌊(2 ^ 53 - 1 / 2 : ℚ)⌋ = 2 ^ 53 - 1 := by
    rw [Int.floor_eq_iff]
    norm_num
  have htie : halfEven (2 ^ 53 - 1 / 2) = 2 ^ 53 := by
    rw [halfEven, hfloor]
    norm_num
  rw [rounded, heq, hcount, htie, hunit, hhigh]
  push_cast
  ring

/-- The bound lies between one and a power of ten. -/
lemma overflowBound_bounds : 1 < overflowBound ∧ overflowBound ≤ 10 ^ (310 : ℤ) := by
  obtain ⟨p, hpos, hunit, hlow, hhigh, hbound⟩ := exists_overflowBound_eq
  have hone : (1 : ℚ) ≤ 2 ^ (971 : ℤ) := one_le_zpow₀ (by norm_num) (by norm_num)
  have hten : (2 : ℚ) ^ 1024 ≤ 10 ^ 310 := by
    have h : 2 ^ 1024 ≤ 10 ^ 310 := by decide +kernel
    exact_mod_cast h
  constructor
  · rw [hunit] at hone
    rw [hbound]
    linarith only [hpos, hone]
  · rw [← zpow_natCast, ← zpow_natCast] at hten
    rw [overflowBound]
    exact (sub_le_self _ (two_zpow_pos _).le).trans hten

/-- **Which numbers are rounded to doubles**: those below the bound.

**Proof sketch.** From the bound on, rounding keeps the order. A number below it is less than the
last power of two among the doubles, or it is counted in units of the greatest doubles, and then
fewer than half a unit is missing to at most the greatest one. -/
theorem rounded_lt_iff (hv : 0 ≤ v) : rounded v < 2 ^ (1024 : ℤ) ↔ v < overflowBound := by
  obtain ⟨p, hpos, hunit, hlow, hhigh, hbound⟩ := exists_overflowBound_eq
  constructor
  · intro h
    by_contra hle
    have hmono := rounded_mono (by rw [hbound]; linarith only [hpos]) (not_lt.1 hle)
    rw [rounded_overflowBound] at hmono
    exact absurd h (not_lt.2 hmono)
  · intro h
    rcases lt_or_ge v (2 ^ (1023 : ℤ)) with hsmall | hlarge
    · have hpow := rounded_digits (m := 1) (e := 1023) (by norm_num) (by norm_num)
      rw [Nat.cast_one, one_mul] at hpow
      refine (hpow ▸ rounded_mono hv hsmall.le).trans_lt ?_
      rw [hlow, hhigh]
      linarith only [hpos]
    · have heq : unit v = 971 := by
        refine unit_eq hlarge ?_ (by decide)
        change _ < (2 : ℚ) ^ (1024 : ℤ)
        rw [hhigh]
        rw [hbound] at h
        linarith only [h, hpos]
      have hcount : v / 2 ^ (971 : ℤ) < 2 ^ 53 - 1 / 2 := by
        rw [div_lt_iff₀ (two_zpow_pos _), hunit]
        rw [hbound] at h
        linarith only [h]
      have hnear := (abs_le.1 (abs_halfEven_sub_le (v / 2 ^ (971 : ℤ)))).2
      rw [rounded, heq, hhigh]
      calc
        (halfEven (v / 2 ^ (971 : ℤ)) : ℚ) * 2 ^ (971 : ℤ) < 2 ^ 53 * 2 ^ (971 : ℤ) :=
          mul_lt_mul_of_pos_right (by linarith only [hcount, hnear]) (two_zpow_pos _)
        _ = 2 ^ 54 * p := by rw [hunit]; ring

end

/-! ### Digits and powers of ten -/

section

variable {n k : ℕ} {e : ℤ}

/-- Whether a double that is taken apart has 53 binary digits, and is a power of ten. -/
def isTenPower (k : ℕ) : UnpackedFloat → Bool
  | .finite .positive m e _ => decide (2 ^ 52 ≤ m ∧ m < 2 ^ 53 ∧ -52 ≤ e ∧
      m * 2 ^ (e + 52).toNat = 10 ^ k * 2 ^ 52)
  | _ => false

/-- A double that is taken apart and is a power of ten is the number of that power. -/
lemma isNumber_of_isTenPower {x : Float} (h : isTenPower k x.toModel.unpack = true) :
    IsNumber .positive (10 ^ k) x := by
  match hx : x.toModel.unpack, h with
  | .finite .positive m e hm, h =>
    obtain ⟨hfull, hlt, he, hvalue⟩ : 2 ^ 52 ≤ m ∧ m < 2 ^ 53 ∧ -52 ≤ e ∧
        m * 2 ^ (e + 52).toNat = 10 ^ k * 2 ^ 52 := of_decide_eq_true h
    refine isNumber_of_unpack hx ⟨hlt, by omega, .inr hfull⟩ ?_
    obtain ⟨d, hd⟩ := Int.eq_ofNat_of_zero_le (show 0 ≤ e + 52 by omega)
    rw [hd] at hvalue
    have hscaled : (m : ℚ) * 2 ^ d = 10 ^ k * 2 ^ 52 := by exact_mod_cast hvalue
    obtain rfl : e = d - 52 := by omega
    rw [zpow_sub₀ (by norm_num), zpow_natCast, ← mul_div_assoc, hscaled]
    norm_num

/-- The powers of ten in the table of those that are doubles are what they are meant to be. -/
lemma isTenPower_powersOfTen : ∀ i : Fin Float.exactlyRepresentablePowersOfTen.size,
    isTenPower i Float.exactlyRepresentablePowersOfTen[i].toModel.unpack = true := by
  decide +kernel

/-- Digits with a power of ten that is not too great or too small are rounded to the nearest binary
number: they are multiplied by the power, or divided by it. -/
lemma isNumberApart_ofScientific (hn : n ≠ 0) (hlow : -(2 ^ 11 + n.log2 : ℤ) ≤ e)
    (hhigh : e ≤ 2 ^ 11) :
    IsNumberApart .positive (rounded (n * 10 ^ e)) (UnpackedFloat.ofScientific .binary64 n e) := by
  rw [UnpackedFloat.ofScientific, dif_neg hn, if_neg (not_lt.2 hhigh), if_neg (not_lt.2 hlow)]
  by_cases he : 0 ≤ e
  · rw [if_pos he]
    obtain ⟨k, rfl⟩ := Int.eq_ofNat_of_zero_le he
    have hfull : 2 ^ 52 ≤ n <<< 53 * 10 ^ k := by
      rw [Nat.shiftLeft_eq]
      calc
        2 ^ 52 ≤ n * 2 ^ 53 := by omega
        _ ≤ n * 2 ^ 53 * 10 ^ k := Nat.le_mul_of_pos_right _ (Nat.pow_pos (by decide))
    have hproduct := @isNumberApart_product (n <<< 53) (10 ^ k) (-53) 0 .positive .positive
      (by omega) (Nat.pow_pos (by decide)) (.inr hfull)
    have hvalue : ((n <<< 53 : ℕ) : ℚ) * 2 ^ (-53 : ℤ) * ((10 ^ k : ℕ) * 2 ^ (0 : ℤ)) =
        n * (10 : ℚ) ^ (k : ℤ) := by
      rw [Nat.shiftLeft_eq, zpow_natCast]
      push_cast
      ring
    rw [hvalue] at hproduct
    exact hproduct
  · rw [if_neg he]
    have hpower : ((-e).toNat : ℤ) = -e := Int.toNat_of_nonneg (by omega)
    have hquotient := @isNumberApart_quotient n (10 ^ (-e).toNat) 0 0 .positive .positive
      (Nat.pos_of_ne_zero hn) (Nat.pow_pos (by decide))
    have hvalue : (n : ℚ) * 2 ^ (0 : ℤ) / ((10 ^ (-e).toNat : ℕ) * 2 ^ (0 : ℤ)) =
        n * (10 : ℚ) ^ e := by
      rw [zpow_zero, mul_one, mul_one, Nat.cast_pow, ← zpow_natCast, hpower, zpow_neg,
        div_inv_eq_mul]
      norm_num
    rw [hvalue] at hquotient
    exact hquotient

/-- **A decimal is rounded to the nearest binary number.**

**Proof sketch.** If the digits and the power of ten are doubles, these are multiplied or divided,
and else the digits themselves. -/
lemma exists_ofScientific (hn : n ≠ 0) (hlow : -(2 ^ 11 + n.log2 : ℤ) ≤ e) (hhigh : e ≤ 2 ^ 11) :
    ∃ u, Float.ofScientific n (e < 0) e.natAbs = Float.ofModel (Float.Model.pack u) ∧
      IsNumberApart .positive (rounded (n * 10 ^ e)) u := by
  by_cases hfast : n < 2 ^ 53 ∧ e.natAbs ≤ 22
  · rw [Float.ofScientific, dif_pos hfast]
    have hword : n.toUInt64.toNat = n := Nat.mod_eq_of_lt (by omega)
    have hdigits := isNumber_toFloat n.toUInt64
    rw [hword, rounded_natCast hfast.1] at hdigits
    have hdigits := hdigits (lt_of_le_digits (by exact_mod_cast hfast.1.le))
    have hpower := isNumber_of_isTenPower (isTenPower_powersOfTen ⟨e.natAbs, by
      change e.natAbs < 23
      omega⟩)
    rcases lt_or_ge e 0 with he | he
    · have hvalue : (n : ℚ) * 10 ^ e = n / 10 ^ e.natAbs := by
        obtain ⟨k, hk⟩ := Int.eq_ofNat_of_zero_le (show 0 ≤ -e by omega)
        obtain rfl : e = -k := by omega
        rw [zpow_neg, zpow_natCast, ← div_eq_mul_inv, Int.natAbs_neg, Int.natAbs_natCast]
      rw [if_pos (by simpa using he), hvalue]
      exact ⟨_, rfl, IsNumberApart.div hdigits hpower (pow_ne_zero _ (by norm_num))⟩
    · have hvalue : (n : ℚ) * 10 ^ e = n * 10 ^ e.natAbs := by
        rw [← zpow_natCast, Int.natAbs_of_nonneg he]
      rw [if_neg (by simpa using he), hvalue]
      exact ⟨_, rfl, IsNumberApart.mul hdigits hpower⟩
  · rw [Float.ofScientific, dif_neg hfast]
    have hexponent : (if decide (e < 0) = true then Int.negOfNat e.natAbs else Int.ofNat e.natAbs) =
        e := by
      rcases lt_or_ge e 0 with he | he
      · rw [if_pos (by simpa using he), Int.negOfNat_eq]
        change -(e.natAbs : ℤ) = e
        omega
      · rw [if_neg (by simpa using he)]
        exact Int.natAbs_of_nonneg he
    simp only [hexponent]
    exact ⟨_, rfl, isNumberApart_ofScientific hn hlow hhigh⟩

end

/-! ### Decimals in writing -/

section

variable {ds : List ℕ} {d : ℕ} {e : ℤ}

/-- The value of digits, with the library's digits, which come the other way round. -/
lemma digitsValue_eq (ds : List ℕ) : digitsValue ds = Nat.ofDigits 10 ds.reverse := by
  rw [Nat.ofDigits_eq_foldr, List.foldr_reverse, digitsValue]
  simp only [Nat.cast_id, Nat.add_comm]

/-- Zeros in front count nothing. -/
lemma digitsValue_dropWhile (ds : List ℕ) :
    digitsValue (ds.dropWhile (· == 0)) = digitsValue ds := by
  induction ds with
  | nil => rfl
  | cons d ds ih =>
    rw [List.dropWhile_cons]
    split
    · next hd =>
      obtain rfl : d = 0 := eq_of_beq hd
      rw [ih]
      rfl
    · rfl

/-- Digits count less than the power of ten with one more zero than there are digits. -/
lemma digitsValue_lt (hds : ∀ d ∈ ds, d ≤ 9) : digitsValue ds < 10 ^ ds.length := by
  rw [digitsValue_eq, ← List.length_reverse]
  refine Nat.ofDigits_lt_base_pow_length (by decide) fun d hd => ?_
  exact Nat.lt_succ_of_le (hds d (List.mem_reverse.1 hd))

/-- Digits of which the first is not zero count at least the power of ten in its place. -/
lemma le_digitsValue_cons (hd : d ≠ 0) : 10 ^ ds.length ≤ digitsValue (d :: ds) := by
  rw [digitsValue_eq, List.reverse_cons, Nat.ofDigits_append, List.length_reverse,
    Nat.ofDigits_singleton]
  exact le_add_left (Nat.le_mul_of_pos_right _ (Nat.pos_of_ne_zero hd))

/-- **Which decimals are read as finite doubles**: those below the bound.

**Proof sketch.** A decimal far beyond the bound or far below one is told by the place of its first
digit. Between them the digits and the exponent are such that the decimal is rounded
(`exists_ofScientific`). -/
theorem isFinite_nearest_iff (hds : ∀ d ∈ ds, d ≤ 9) :
    (nearest ds e).isFinite = true ↔ (digitsValue ds : ℚ) * 10 ^ e < overflowBound := by
  obtain ⟨hone, hlarge⟩ := overflowBound_bounds
  have hzero : (0.0 : Float).isFinite = true := by decide +kernel
  have hinfinite : (1.0 / 0.0 : Float).isFinite = false := by decide +kernel
  have hsubset : ∀ d ∈ ds.dropWhile (· == 0), d ≤ 9 := fun d hd =>
    hds d ((List.dropWhile_suffix _).subset hd)
  have hfirst := List.head?_dropWhile_not (fun d : ℕ => d == 0) ds
  rw [← digitsValue_dropWhile ds, nearest]
  generalize ds.dropWhile (· == 0) = significant at *
  cases significant with
  | nil =>
    rw [List.isEmpty_nil, Bool.true_or, if_pos rfl]
    refine iff_of_true hzero ?_
    change ((0 : ℕ) : ℚ) * 10 ^ e < overflowBound
    rw [Nat.cast_zero, zero_mul]
    linarith only [hone]
  | cons d rest =>
    have hd : d ≠ 0 := by simpa using hfirst
    have hlow : 10 ^ rest.length ≤ digitsValue (d :: rest) := le_digitsValue_cons hd
    have hhigh := digitsValue_lt hsubset
    rw [List.length_cons] at hhigh ⊢
    rw [List.isEmpty_cons, Bool.false_or]
    generalize digitsValue (d :: rest) = n at *
    have hten : ∀ i : ℤ, (0 : ℚ) < 10 ^ i := fun i => by positivity
    have hleft : (10 : ℚ) ^ (rest.length + e) ≤ n * 10 ^ e := by
      rw [zpow_add₀ (by norm_num), zpow_natCast]
      exact mul_le_mul_of_nonneg_right (by exact_mod_cast hlow) (hten e).le
    have hright : (n : ℚ) * 10 ^ e < 10 ^ ((rest.length + 1 : ℕ) + e) := by
      rw [zpow_add₀ (by norm_num), zpow_natCast]
      exact mul_lt_mul_of_pos_right (by exact_mod_cast hhigh) (hten e)
    split_ifs with hsmall hgreat
    · refine iff_of_true hzero (hright.trans (lt_of_le_of_lt ?_ hone))
      exact zpow_le_one_of_nonpos₀ (by norm_num) (by simp at hsmall; omega)
    · refine iff_of_false (by simp [hinfinite]) (not_lt.2 (hlarge.trans (le_trans ?_ hleft)))
      exact zpow_le_zpow_right₀ (by norm_num) (by push_cast at hgreat; omega)
    · have hn : n ≠ 0 := Nat.pos_iff_ne_zero.1 (lt_of_lt_of_le (Nat.pow_pos (by decide)) hlow)
      have hlog : 3 * rest.length ≤ n.log2 := by
        rw [Nat.le_log2 hn, Nat.pow_mul]
        exact (Nat.pow_le_pow_left (by decide) _).trans hlow
      simp only [decide_eq_true_eq, not_lt] at hsmall
      push_cast at hsmall hgreat
      obtain ⟨u, hu, hnumber⟩ := exists_ofScientific (e := e) hn (by omega) (by omega)
      rw [hu, isFinite_pack_iff hnumber, rounded_lt_iff]
      exact mul_nonneg (Nat.cast_nonneg n) (hten e).le

end

/-! ### Reading of decimals -/

section

variable {cs : List Char} {c : Char} {d : ℕ} {x : Float}

/-- A digit counts at most nine. -/
lemma digitValue?_le (h : Tariff.Text.digitValue? c = some d) : d ≤ 9 := by
  rw [Tariff.Text.digitValue?, Option.map_eq_some_iff] at h
  obtain ⟨z, hz, rfl⟩ := h
  have hbounds := List.find?_some hz
  simp only [Bool.and_eq_true, decide_eq_true_eq] at hbounds
  omega

/-- The digits that continue a numeral count at most nine each. -/
lemma le_of_mem_scanMore (cs : List Char) : ∀ d ∈ (scanMore cs).1, d ≤ 9 := by
  fun_induction scanMore cs with
  | case1 | case2 | case4 | case6 => simp
  | case3 c rest d hd ih => exact List.forall_mem_cons.2 ⟨digitValue?_le hd, ih⟩
  | case5 c rest _ _ d hd ih => exact List.forall_mem_cons.2 ⟨digitValue?_le hd, ih⟩

/-- The digits at the start of a text count at most nine each. -/
lemma le_of_mem_scanDigits (cs : List Char) : ∀ d ∈ (scanDigits cs).1, d ≤ 9 := by
  unfold scanDigits
  split
  · simp
  · split
    · next d hd => exact List.forall_mem_cons.2 ⟨digitValue?_le hd, le_of_mem_scanMore _⟩
    · simp

/-- The digits after the point, if there is one, and the rest. -/
def scanFraction (cs : List Char) : List Nat × List Char :=
  match cs with
  | '.' :: rest => scanDigits rest
  | _ => ([], cs)

/-- The digits after the point count at most nine each. -/
lemma le_of_mem_scanFraction (cs : List Char) : ∀ d ∈ (scanFraction cs).1, d ≤ 9 := by
  unfold scanFraction
  split
  · exact le_of_mem_scanDigits _
  · simp

/-- The digits and the exponent of a decimal without sign. -/
def decimal? (cs : List Char) : Option (List Nat × Int) :=
  let (whole, afterWhole) := scanDigits cs
  let (fraction, afterFraction) := scanFraction afterWhole
  let (exponent, rest) := scanExponent afterFraction
  if (whole.isEmpty && fraction.isEmpty) || !rest.isEmpty then none
  else some (whole ++ fraction, exponent - fraction.length)

/-- The digits of a decimal count at most nine each. -/
lemma le_of_decimal? {ds : List Nat} {e : Int} (h : decimal? cs = some (ds, e)) :
    ∀ d ∈ ds, d ≤ 9 := by
  simp only [decimal?, Option.ite_none_left_eq_some, Option.some.injEq, Prod.mk.injEq] at h
  obtain ⟨-, rfl, -⟩ := h
  exact List.forall_mem_append.2 ⟨le_of_mem_scanDigits _, le_of_mem_scanFraction _⟩

/-- A decimal is read as the double nearest to its digits with its exponent. -/
lemma readDecimal?_eq (cs : List Char) :
    readDecimal? cs = (decimal? cs).map fun decimal => nearest decimal.1 decimal.2 := by
  rw [decimal?]
  dsimp only
  rw [apply_ite (Option.map _)]
  rfl

/-- **Which texts of decimals are read as finite doubles.** -/
theorem isFinite_of_readDecimal? (h : readDecimal? cs = some x) :
    x.isFinite = false ↔ ∃ ds e, decimal? cs = some (ds, e) ∧
      overflowBound ≤ (digitsValue ds : ℚ) * 10 ^ e := by
  rw [readDecimal?_eq, Option.map_eq_some_iff] at h
  obtain ⟨⟨ds, e⟩, hdecimal, rfl⟩ := h
  rw [← Bool.not_eq_true, isFinite_nearest_iff (le_of_decimal? hdecimal), not_lt, hdecimal]
  simp

end

end Tariff.Number
