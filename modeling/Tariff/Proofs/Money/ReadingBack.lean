import Tariff.Proofs.Number.Writing
import Tariff.Proofs.Quote.Display

/-!
# Amounts that are read back

An amount on display can be read back: without its ending and its spaces it is the numeral of the
whole number that the amount is rounded to, or that of its cents with two decimals. The spaces stand
between groups of three digits before the point and nowhere else. So amounts in a currency without
decimals are told apart on display iff they are rounded to different whole numbers.

## Main definitions

* `Tariff.Money.IsShownAs` — the characters that a numeral is shown as.

## Main results

* `Tariff.Money.exists_wholeAmount` — every finite amount has a whole number.
* `Tariff.Money.isShownAs_groupedInteger`, `Tariff.Money.isShownAs_fixedWith` — how amounts are
  shown.
* `Tariff.Money.display_reads_back` — what an amount on display says.
-/

set_option autoImplicit false

namespace Tariff.Money

open Tariff.Number Float.Model.UnpackedFloat

variable {x y : Float} {s : Sign} {v : ℚ} {i j : ℤ} {currency text : String}
  {suffix : Option String}

/-! ### Numerals on display -/

/-- The characters that a numeral is shown as: without their spaces they are the numeral. There is
at most a minus sign before the digits of the whole part, which have a space between groups of
three, and at most a point with two digits after them. -/
structure IsShownAs (body : List Char) (numeral : String) : Prop where
  /-- without the spaces the numeral is left -/
  reads_back : String.ofList (body.filter (· ≠ ' ')) = numeral
  /-- the spaces stand between groups of three digits -/
  parts : ∃ sign whole decimals, body = sign ++ whole ++ decimals ∧
    (sign = [] ∨ sign = ['-']) ∧ InThrees ' ' whole ∧
      (decimals = [] ∨ ∃ a b : Char, decimals = ['.', a, b] ∧ a.isDigit ∧ b.isDigit)

/-- A digit is no space. -/
lemma ne_space_of_isDigit {c : Char} (h : c.isDigit = true) : c ≠ ' ' := by
  rintro rfl
  exact absurd h (by decide)

/-- A minus sign is no space. -/
lemma filter_signed (negative : Bool) (cs : List Char) :
    (signed negative cs).filter (· ≠ ' ') = signed negative (cs.filter (· ≠ ' ')) := by
  cases negative <;> simp [signed]

/-- What is signed starts with a minus sign or with nothing. -/
lemma exists_signed_eq (negative : Bool) (cs : List Char) :
    ∃ sign, signed negative cs = sign ++ cs ∧ (sign = [] ∨ sign = ['-']) := by
  cases negative
  · exact ⟨[], rfl, .inl rfl⟩
  · exact ⟨['-'], rfl, .inr rfl⟩

/-- The digits of a whole number are shown with a space between groups of three. -/
lemma inThrees_digitsOf (n : ℕ) : InThrees ' ' (grouped ' ' (digitsOf n)) :=
  inThrees_grouped (fun _ => isDigit_of_mem_digitsOf) (digitsOf_ne_nil n) (by decide)

/-- The digits of a whole number are left without the spaces. -/
lemma filter_grouped_digitsOf (n : ℕ) :
    (grouped ' ' (digitsOf n)).filter (· ≠ ' ') = digitsOf n :=
  filter_grouped fun _ hc => ne_space_of_isDigit (isDigit_of_mem_digitsOf hc)

/-- **How a whole number is shown.** -/
lemma isShownAs_groupedInteger (i : ℤ) : IsShownAs (groupedInteger i).toList (toString i) := by
  rw [groupedInteger, String.toList_ofList, ← integerText_eq]
  obtain ⟨sign, hsigned, hsign⟩ := exists_signed_eq (i < 0) (grouped ' ' (digitsOf i.natAbs))
  refine ⟨?_, sign, _, [], by rw [hsigned, List.append_nil], hsign, inThrees_digitsOf _, .inl rfl⟩
  rw [filter_signed, filter_grouped_digitsOf, integerText, signed]
  simp

/-- **How a double with two decimals is shown.** -/
lemma isShownAs_fixedWith (h : IsNumber s v x) :
    IsShownAs (fixedWith (grouped ' ') 2 x).toList
      (hundredthsText (isNegative x) (hundredths v)) := by
  rw [h.fixedWith_eq, String.toList_ofList]
  generalize hundredths v = k
  have hten : ∀ m, digitsOf (m % 10) = [(m % 10).digitChar] := fun m =>
    digitsOf_of_lt (Nat.mod_lt m (by decide))
  have hdigit : ∀ m, (m % 10).digitChar.isDigit = true := fun m =>
    isDigit_of_mem_digitsOf (n := m % 10) (by simp [hten])
  obtain ⟨sign, hsigned, hsign⟩ := exists_signed_eq (isNegative x)
    (grouped ' ' (digitsOf (k / 100)) ++ ['.', (k / 10 % 10).digitChar, (k % 10).digitChar])
  refine ⟨?_, sign, _, _, by rw [hsigned, List.append_assoc], hsign, inThrees_digitsOf _,
    .inr ⟨_, _, rfl, hdigit _, hdigit _⟩⟩
  have hdecimals : ['.', (k / 10 % 10).digitChar, (k % 10).digitChar].filter (· ≠ ' ') =
      ['.', (k / 10 % 10).digitChar, (k % 10).digitChar] := by
    refine List.filter_eq_self.2 fun c hc => ?_
    have hpoint : c = '.' ∨ c.isDigit = true := by
      simp only [List.mem_cons, List.not_mem_nil, or_false] at hc
      rcases hc with rfl | rfl | rfl
      exacts [.inl rfl, .inr (hdigit _), .inr (hdigit _)]
    rcases hpoint with rfl | hc
    · decide
    · simpa using ne_space_of_isDigit hc
  rw [filter_signed, List.filter_append, filter_grouped_digitsOf, hdecimals]
  apply String.toList_injective
  rw [String.toList_ofList, hundredthsText]
  simp only [String.toList_append, toList_toString, hten]
  cases isNegative x <;> simp [signed]

/-! ### Amounts on display -/

/-- To round to no decimals is to round with the scale of one. -/
lemma roundTo_zero (h : x.isFinite = true) : roundTo x 0 = .ok (roundWith 1.0 x) := by
  have hdigits : ∃ z, ofInt? 0 = some z := Option.isSome_iff_exists.1 (by decide +kernel)
  have hscale : powerOfTen 0 = 1.0 := rfl
  have hone : (1.0 : Float).isFinite = true := isNumber_one.isFinite
  obtain ⟨z, hz⟩ := hdigits
  simp [roundTo, h, hz, hscale, hone]

/-- Every finite amount has a whole number. -/
lemma exists_wholeAmount (h : x.isFinite = true) :
    ∃ i, roundTo x 0 >>= wholeAmount = .ok i ∧ wholeAmount (roundWith 1.0 x) = .ok i := by
  obtain ⟨i, hi⟩ := exists_truncation? (isFinite_roundWith isNumber_one le_rfl h)
  have hwhole : wholeAmount (roundWith 1.0 x) = .ok i := by rw [wholeAmount, hi]
  rw [roundTo_zero h]
  exact ⟨i, hwhole, hwhole⟩

/-- Whole numbers are told apart on display. -/
lemma groupedInteger_inj : groupedInteger i = groupedInteger j ↔ i = j := by
  refine ⟨fun h => ?_, congrArg _⟩
  have hnumeral : toString i = toString j := by
    rw [← (isShownAs_groupedInteger i).reads_back, h, (isShownAs_groupedInteger j).reads_back]
  rw [← integerText_eq, ← integerText_eq] at hnumeral
  exact integerText_inj hnumeral

/-- An amount in a currency without decimals is displayed as its whole number. -/
lemma display_of_whole (hcurrency : hasNoDecimals currency = true)
    (hi : wholeAmount (roundWith 1.0 x) = .ok i) : display x currency suffix =
      .ok (groupedInteger i ++ " " ++ ending currency suffix) := by
  refine display_eq_ok ?_
  rw [amountText, if_pos hcurrency, hi]
  rfl

/-- **What an amount on display says.** A finite amount is always displayed, and its ending stands
after a space. In a currency without decimals what is before it shows the numeral of the whole
number that the amount is rounded to, and two amounts are displayed alike iff these numbers are
equal. In any other currency it shows the numeral with two decimals of the hundredths nearest to the
amount that is rounded to cents. -/
theorem display_reads_back (hx : x.isFinite = true) (hy : y.isFinite = true) (currency : String)
    (suffix : Option String) :
    (∃ body, display x currency suffix = .ok (String.ofList body ++ " " ++ ending currency suffix) ∧
      (hasNoDecimals currency = true →
        ∃ i, roundTo x 0 >>= wholeAmount = .ok i ∧ IsShownAs body (toString i)) ∧
      (hasNoDecimals currency = false →
        ∃ s v, IsNumber s v (toCents x) ∧
          IsShownAs body (hundredthsText (isNegative (toCents x)) (hundredths v)))) ∧
    (hasNoDecimals currency = true →
      (display x currency suffix = display y currency suffix ↔
        roundTo x 0 >>= wholeAmount = roundTo y 0 >>= wholeAmount)) := by
  obtain ⟨i, hround, hi⟩ := exists_wholeAmount hx
  obtain ⟨j, hround', hj⟩ := exists_wholeAmount hy
  constructor
  · cases hcurrency : hasNoDecimals currency with
    | true =>
      refine ⟨(groupedInteger i).toList, ?_,
        fun _ => ⟨i, hround, isShownAs_groupedInteger i⟩, nofun⟩
      rw [String.ofList_toList, display_of_whole hcurrency hi]
    | false =>
      obtain ⟨s, v, hv⟩ := exists_isNumber (isFinite_toCents_iff.2 hx)
      refine ⟨(fixedWith (grouped ' ') 2 (toCents x)).toList, ?_, nofun,
        fun _ => ⟨s, v, hv, isShownAs_fixedWith hv⟩⟩
      rw [String.ofList_toList, display_of_decimals hcurrency]
  · intro hcurrency
    rw [display_of_whole hcurrency hi, display_of_whole hcurrency hj, hround, hround',
      Except.ok.injEq, Except.ok.injEq, String.append_left_inj, String.append_left_inj,
      groupedInteger_inj]

/-- Two amounts in different halves around a whole number of more than a million: they are shown
alike, and what is shown has the numeral of that number. In a currency with decimals, what is shown
of the first one has the numeral of its cents. -/
theorem display_reads_back_million :
    (-1234567.5 : Float).isFinite = true ∧ (-1234568.25 : Float).isFinite = true ∧
    (∃ body, display (-1234567.5) "JPY" none =
        .ok (String.ofList body ++ " " ++ ending "JPY" none) ∧
      ∃ i, roundTo (-1234567.5) 0 >>= wholeAmount = .ok i ∧ IsShownAs body (toString i)) ∧
    display (-1234567.5) "JPY" none = display (-1234568.25) "JPY" none ∧
    display (-1234567.5) "EUR" none = .ok "-1 234 567.50 EUR" ∧
    ∃ body, display (-1234567.5) "EUR" none =
        .ok (String.ofList body ++ " " ++ ending "EUR" none) ∧
      ∃ s v, IsNumber s v (toCents (-1234567.5)) ∧
        IsShownAs body (hundredthsText (isNegative (toCents (-1234567.5))) (hundredths v)) := by
  have hx : (-1234567.5 : Float).isFinite = true := by decide +kernel
  have hy : (-1234568.25 : Float).isFinite = true := by decide +kernel
  have hcurrency : hasNoDecimals "JPY" = true := by decide +kernel
  obtain ⟨⟨body, hdisplay, hwhole, -⟩, halike⟩ := display_reads_back hx hy "JPY" none
  have hi : truncation? (roundWith 1.0 (-1234567.5)) = some (-1234568) := by decide +kernel
  have hj : truncation? (roundWith 1.0 (-1234568.25)) = some (-1234568) := by decide +kernel
  obtain ⟨⟨body', hdisplay', -, hcents⟩, -⟩ := display_reads_back hx hy "EUR" none
  have heuro : (display (-1234567.5) "EUR" none).toOption = some "-1 234 567.50 EUR" := by
    decide +kernel
  refine ⟨hx, hy, ⟨body, hdisplay, hwhole hcurrency⟩, (halike hcurrency).2 ?_,
    toOption_eq_some_iff.1 heuro, body', hdisplay', hcents (by decide +kernel)⟩
  rw [roundTo_zero hx, roundTo_zero hy]
  simp only [bind, Except.bind, wholeAmount, hi, hj]

end Tariff.Money
