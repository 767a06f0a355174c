import Tariff.Number.Written
import Tariff.Proofs.Number.Arithmetic

/-!
# Numbers in writing

A whole number is written as its decimal numeral, and a double with two decimals as the numeral of
the hundredths nearest to it. Marks may be put between groups of three digits before the point; they
do not get lost among the digits, since they stand in every fourth place from the right.

## Main definitions

* `Tariff.Number.InThrees` — digits with a mark between groups of three.
* `Tariff.Number.hundredthsText` — the numeral of some hundredths, with two decimals.

## Main results

* `Tariff.Number.filter_grouped` — without the marks, the digits are left.
* `Tariff.Number.inThrees_grouped` — where the marks stand.
* `Tariff.Number.integerText_eq` — a whole number in writing is its numeral.
* `Tariff.Number.IsNumber.fixedWith_eq` — a double with two decimals is that of its hundredths.
-/

set_option autoImplicit false

namespace Tariff.Number

/-! ### Groups of three -/

section

variable {mark c : Char} {digits : List Char} {i : ℕ}

/-- Digits with a mark between groups of three: counted from the right, a mark stands in every
fourth place and digits stand in all others. A digit comes first. -/
structure InThrees (mark : Char) (text : List Char) : Prop where
  /-- where the marks stand, counted from the right -/
  mark_iff : ∀ i c, text.reverse[i]? = some c → (c = mark ↔ i % 4 = 3)
  /-- all else are digits -/
  isDigit : ∀ c ∈ text, c ≠ mark → c.isDigit = true
  /-- no mark comes first -/
  first : ∃ c rest, text = c :: rest ∧ c.isDigit = true

/-- Without the marks, the digits are left. -/
lemma filter_groupedBackwards (h : ∀ c ∈ digits, c ≠ mark) :
    (groupedBackwards mark digits).filter (· ≠ mark) = digits := by
  fun_induction groupedBackwards mark digits with
  | case1 a b c d rest ih =>
    simp only [List.forall_mem_cons] at h
    obtain ⟨ha, hb, hc, hrest⟩ := h
    have hmore := ih (List.forall_mem_cons.2 hrest)
    rw [List.filter_cons_of_pos (by simpa using ha), List.filter_cons_of_pos (by simpa using hb),
      List.filter_cons_of_pos (by simpa using hc), List.filter_cons_of_neg (by simp), hmore]
  | case2 digits => exact List.filter_eq_self.2 fun c hc => by simpa using h c hc

/-- The marks stand in every fourth place.

**Proof sketch.** Induction on the groups. Of the first four places three have digits and the fourth
one has a mark, and the others stand four places further. -/
lemma eq_mark_iff_groupedBackwards (h : ∀ c ∈ digits, c ≠ mark)
    (hc : (groupedBackwards mark digits)[i]? = some c) : c = mark ↔ i % 4 = 3 := by
  fun_induction groupedBackwards mark digits generalizing i with
  | case1 a b c' d rest ih =>
    simp only [List.forall_mem_cons] at h
    obtain ⟨ha, hb, hc', hrest⟩ := h
    match i with
    | 0 | 1 | 2 | 3 => simp_all [eq_comm]
    | i + 4 =>
      rw [ih (List.forall_mem_cons.2 hrest) (i := i) hc]
      omega
  | case2 digits hshort =>
    have hlength : digits.length ≤ 3 := by
      match digits, hshort with
      | [], _ | [_], _ | [_, _], _ | [_, _, _], _ => simp
      | a :: b :: c :: d :: rest, hshort => exact absurd rfl (hshort a b c d rest)
    have hi : i < digits.length := (List.getElem?_eq_some_iff.1 hc).1
    exact iff_of_false (h c (List.mem_of_getElem? hc)) (by omega)

/-- The last digit comes last. -/
lemma getLast?_groupedBackwards :
    (groupedBackwards mark digits).getLast? = digits.getLast? := by
  fun_induction groupedBackwards mark digits with
  | case1 a b c d rest ih =>
    simp only [List.getLast?_cons, ih]
    rfl
  | case2 digits => rfl

/-- Without the marks, the digits are left. -/
lemma filter_grouped (h : ∀ c ∈ digits, c ≠ mark) :
    (grouped mark digits).filter (· ≠ mark) = digits := by
  rw [grouped, List.filter_reverse, filter_groupedBackwards (by simpa using h),
    List.reverse_reverse]

/-- **Where the marks stand** between groups of three. -/
lemma inThrees_grouped (h : ∀ c ∈ digits, c.isDigit = true) (hne : digits ≠ [])
    (hmark : mark.isDigit = false) : InThrees mark (grouped mark digits) := by
  have hapart : ∀ c ∈ digits, c ≠ mark := by
    rintro c hc rfl
    exact absurd (h c hc) (by simp [hmark])
  have hfilter := filter_grouped hapart
  refine ⟨fun i c hc => ?_, fun c hc hother => ?_, ?_⟩
  · rw [grouped, List.reverse_reverse] at hc
    exact eq_mark_iff_groupedBackwards (by simpa using hapart) hc
  · have hmem : c ∈ (grouped mark digits).filter (· ≠ mark) :=
      List.mem_filter.2 ⟨hc, by simpa using hother⟩
    rw [hfilter] at hmem
    exact h c hmem
  · obtain ⟨d, rest, rfl⟩ := List.exists_cons_of_ne_nil hne
    have hfirst : (grouped mark (d :: rest)).head? = some d := by
      rw [grouped, List.head?_reverse, getLast?_groupedBackwards, List.getLast?_reverse]
      rfl
    obtain ⟨after, hafter⟩ := List.head?_eq_some_iff.1 hfirst
    exact ⟨d, after, hafter, h d (by simp)⟩

end

/-! ### Numerals -/

section

variable {n k : ℕ}

/-- Digits are digits. -/
lemma isDigit_of_mem_digitsOf {c : Char} (h : c ∈ digitsOf n) : c.isDigit = true :=
  Nat.isDigit_of_mem_toDigits (by decide) (by decide) h

/-- Every number has digits. -/
lemma digitsOf_ne_nil (n : ℕ) : digitsOf n ≠ [] :=
  Nat.toDigits_ne_nil

/-- A numeral is made of its digits. -/
lemma toList_toString (n : ℕ) : (toString n).toList = digitsOf n := by
  rw [Nat.toString_eq_ofList_toDigits, String.toList_ofList]
  rfl

/-- **A whole number in writing is its numeral.** -/
lemma integerText_eq (i : ℤ) : integerText i = toString i := by
  apply String.toList_injective
  cases i with
  | ofNat n =>
    rw [integerText, if_neg (by simp), String.toList_ofList]
    exact (toList_toString n).symm
  | negSucc n =>
    rw [integerText, if_pos (Int.negSucc_lt_zero n), String.toList_ofList]
    change _ = ("-" ++ toString (n + 1)).toList
    rw [String.toList_append, toList_toString]
    rfl

/-- Whole numbers are told apart in writing.

**Proof sketch.** A minus sign is no digit, so the signs are alike, and digits can be read back. -/
lemma integerText_inj {i j : ℤ} (h : integerText i = integerText j) : i = j := by
  have hread : ∀ n : ℕ, Nat.ofDigitChars 10 (digitsOf n) 0 = n := fun _ =>
    Nat.ofDigitChars_ten_toDigits
  have hdigits : ∀ m n : ℕ, digitsOf m = digitsOf n → m = n := by
    intro m n heq
    rw [← hread m, heq, hread n]
  have hsign : ∀ m n : ℕ, digitsOf m ≠ '-' :: digitsOf n := by
    intro m n heq
    have hminus : '-' ∈ digitsOf m := heq ▸ List.mem_cons_self
    exact absurd (isDigit_of_mem_digitsOf hminus) (by decide)
  rw [integerText, integerText, String.ofList_inj] at h
  by_cases hi : i < 0 <;> by_cases hj : j < 0
  · rw [if_pos hi, if_pos hj, List.cons.injEq] at h
    have := hdigits _ _ h.2
    omega
  · rw [if_pos hi, if_neg hj] at h
    exact absurd h.symm (hsign _ _)
  · rw [if_neg hi, if_pos hj] at h
    exact absurd h (hsign _ _)
  · rw [if_neg hi, if_neg hj] at h
    have := hdigits _ _ h
    omega

/-- A numeral of more than one digit is that without the last one, and the last one. -/
lemma digitsOf_of_le (h : 10 ≤ n) : digitsOf n = digitsOf (n / 10) ++ [(n % 10).digitChar] :=
  Nat.toDigits_of_base_le (by decide) h

/-- A digit is its own numeral. -/
lemma digitsOf_of_lt (h : n < 10) : digitsOf n = [n.digitChar] :=
  Nat.toDigits_of_lt_base h

/-- The numeral of some hundredths, with two decimals. -/
def hundredthsText (negative : Bool) (k : ℕ) : String :=
  (if negative then "-" else "") ++ toString (k / 100) ++ "." ++ toString (k / 10 % 10) ++
    toString (k % 10)

/-- The point comes before the last two digits, with zeros in front of less than three. -/
lemma pointBefore_two (k : ℕ) : pointBefore 2 (digitsOf k) =
    (digitsOf (k / 100), [(k / 10 % 10).digitChar, (k % 10).digitChar]) := by
  have hdigits : List.replicate (3 - (digitsOf k).length) '0' ++ digitsOf k =
      digitsOf (k / 100) ++ [(k / 10 % 10).digitChar, (k % 10).digitChar] := by
    rcases Nat.lt_or_ge k 10 with hone | hten
    · rw [digitsOf_of_lt hone, Nat.div_eq_of_lt (by omega), Nat.div_eq_of_lt hone,
        Nat.mod_eq_of_lt hone]
      rfl
    rcases Nat.lt_or_ge k 100 with htwo | hmore
    · rw [digitsOf_of_le hten, digitsOf_of_lt (by omega), Nat.div_eq_of_lt htwo,
        Nat.mod_eq_of_lt (show k / 10 < 10 by omega)]
      rfl
    · have hlength : 3 ≤ (digitsOf k).length := by
        rw [digitsOf_of_le hten, digitsOf_of_le (show 10 ≤ k / 10 by omega)]
        have := List.length_pos_of_ne_nil (digitsOf_ne_nil (k / 10 / 10))
        simp
        omega
      rw [Nat.sub_eq_zero_of_le hlength, List.replicate_zero, List.nil_append,
        digitsOf_of_le hten, digitsOf_of_le (show 10 ≤ k / 10 by omega), Nat.div_div_eq_div_mul,
        List.append_assoc]
      rfl
  simp only [pointBefore, hdigits]
  simp

/-- A rounded quotient is the nearest whole number to it. -/
lemma roundedQuotient_eq (a : ℕ) {b : ℕ} (hb : 0 < b) :
    (roundedQuotient a b : ℤ) = halfEven (a / b) := by
  have hfloor : ⌊(a : ℚ) / b⌋ = ((a / b : ℕ) : ℤ) := by
    rw [Rat.floor_natCast_div_natCast]
    rfl
  have hrest : (a : ℚ) / b - ((a / b : ℕ) : ℤ) = ((a % b : ℕ) : ℚ) / b := by
    have hsplit : (a : ℚ) = b * (a / b : ℕ) + (a % b : ℕ) := by
      exact_mod_cast (Nat.div_add_mod a b).symm
    have hne : (b : ℚ) ≠ 0 := by exact_mod_cast hb.ne'
    rw [div_sub' hne, div_left_inj' hne, Int.cast_natCast]
    linarith
  have hpos : (0 : ℚ) < b := by exact_mod_cast hb
  have hless : ((a % b : ℕ) : ℚ) / b < 1 / 2 ↔ 2 * (a % b) < b := by
    rw [div_lt_div_iff₀ hpos (by norm_num), one_mul, mul_comm]
    exact_mod_cast Iff.rfl
  have hmore : 1 / 2 < ((a % b : ℕ) : ℚ) / b ↔ b < 2 * (a % b) := by
    rw [div_lt_div_iff₀ (by norm_num) hpos, one_mul, mul_comm _ 2]
    exact_mod_cast Iff.rfl
  simp only [halfEven, hfloor, hrest, hless, hmore, roundedQuotient, Bool.or_eq_true,
    Bool.and_eq_true, decide_eq_true_eq, beq_iff_eq]
  split_ifs <;> omega

/-- The hundredths nearest to a magnitude. -/
def hundredths (v : ℚ) : ℕ :=
  (halfEven (v * 100)).toNat

/-- **A double with two decimals is that of its hundredths**, whatever is put between the digits
before the point. -/
lemma IsNumber.fixedWith_eq {x : Float} {s : Float.Model.UnpackedFloat.Sign} {v : ℚ}
    (h : IsNumber s v x) (arrange : List Char → List Char) :
    fixedWith arrange 2 x = String.ofList (signed (isNegative x)
      (arrange (digitsOf (hundredths v / 100)) ++
        ['.', (hundredths v / 10 % 10).digitChar, (hundredths v % 10).digitChar])) := by
  obtain ⟨m, e, hx, hv⟩ := h.ofFloat_eq
  have hcount : roundedQuotient (m * twoPow e.toNat * tenPow 2) (twoPow (-e).toNat) =
      hundredths v := by
    have hvalue := scaled_value m e
    rw [Ratio.scaled] at hvalue
    push_cast at hvalue
    have hround := roundedQuotient_eq (m * twoPow e.toNat * tenPow 2)
      (show 0 < twoPow (-e).toNat from Nat.pow_pos (by decide))
    have hquotient : ((m * twoPow e.toNat * tenPow 2 : ℕ) : ℚ) / (twoPow (-e).toNat : ℕ) =
        v * 100 := by
      rw [hv, ← hvalue, show tenPow 2 = 100 from rfl]
      push_cast
      ring
    rw [hquotient] at hround
    rw [hundredths, ← hround, Int.toNat_natCast]
  rw [fixedWith, writtenWith, hx]
  simp only [hcount, pointBefore_two]
  rfl

end

end Tariff.Number
