import Tariff.Proofs.Money.Rounding
import Tariff.Proofs.Quote.Amounts

/-!
# The price on display

The price of a quote and the text it is shown with are rounded apart from each other, both from the
amount in full precision. With decimals the text is that of the price. Without, the text has the
amount rounded to a whole number at once, while the price has been rounded to cents before; so the
text of the price may differ where the cents lift an amount to a half. Below a bound this is the
only difference. Beyond it cents are no longer rounded to themselves.

## Main definitions

* `Tariff.Money.LiftedToHalf` — rounding to cents lifts an amount to the half above a whole number.
* `Tariff.Money.wholeText` — a whole number on display.

## Main results

* `Tariff.Money.display_toCents` — when an amount and its cents are displayed alike.
* `Tariff.Quote.formattedPrice_of_make` — what the text of a quote shows.
* `Tariff.Quote.display_price_ne` — a price that is displayed otherwise than the quote.
* `Tariff.Quote.display_price_ne_of_large` — such a price with decimals, beyond the bound.
-/

set_option autoImplicit false

namespace Tariff

open Tariff.Number Float.Model.UnpackedFloat

/-! ### Amounts on display -/

namespace Money

variable {x : Float} {s : Sign} {v : ℚ} {n : ℕ} {currency text : String} {suffix : Option String}

/-- What stands after an amount: its suffix, or the currency where there is none. -/
def ending (currency : String) (suffix : Option String) : String :=
  match suffix with
  | some s => if s.isEmpty then currency else s
  | none => currency

/-- An amount is displayed as its text with the ending. -/
lemma display_eq_ok (h : amountText x currency = .ok text) :
    display x currency suffix = .ok (text ++ " " ++ ending currency suffix) :=
  bind_eq_ok.2 ⟨text, h, rfl⟩

/-- An amount in a currency with decimals is displayed as its cents with two of them. -/
lemma display_of_decimals (h : hasNoDecimals currency = false) : display x currency suffix =
    .ok (fixedWith (grouped ' ') 2 (toCents x) ++ " " ++ ending currency suffix) :=
  display_eq_ok (if_neg (Bool.eq_false_iff.1 h))

/-- A whole number on display, with the sign of an amount. -/
def wholeText (x : Float) (n : ℕ) : String :=
  groupedInteger (if isNegative x then -n else n)

/-- The sign of an amount is that of the number. -/
lemma wholeText_eq (hx : IsNumber s v x) : wholeText x n = groupedInteger (s.apply n) := by
  rw [wholeText]
  cases s with
  | positive =>
    have hsign : ¬isNegative x = true := by simp [hx.isNegative_iff]
    rw [if_neg hsign]
    rfl
  | negative =>
    rw [if_pos (hx.isNegative_iff.2 rfl)]
    rfl

/-- A sign does not matter for a number that is zero where the sign differs. -/
lemma ite_apply {p : Prop} [Decidable p] (h : p → n = 0) :
    (if p then .positive else s : Sign).apply n = s.apply n := by
  split_ifs with hp
  · rw [h hp]
    cases s <;> rfl
  · rfl

/-- **The whole number of an amount.** -/
lemma wholeAmount_eq (hx : IsNumber s v x) (hv : v ≤ 2 ^ 45) :
    wholeAmount (roundWith 1.0 x) = .ok (s.apply (parts 1 v)) := by
  have hlt : parts 1 v < 2 ^ 53 := parts_lt (by linarith [hx.nonneg]) (by linarith)
  have hwhole := isNumber_roundWith isNumber_one le_rfl (by norm_num) hx hv
  rw [div_one, rounded_natCast hlt] at hwhole
  have hpart : truncation? (roundWith 1.0 x) = some (s.apply (parts 1 v)) := by
    rw [hwhole.truncation?_eq, Int.floor_natCast, ite_apply id]
  rw [wholeAmount, hpart]

/-- The text of an amount in a currency without decimals. -/
lemma amountText_eq (hcurrency : hasNoDecimals currency = true) (hx : IsNumber s v x)
    (hv : v ≤ 2 ^ 45) : amountText x currency = .ok (groupedInteger (s.apply (parts 1 v))) := by
  rw [amountText, if_pos hcurrency, wholeAmount_eq hx hv]
  rfl

/-- Rounding to cents lifts an amount to the half above a whole number. -/
def LiftedToHalf (x : Float) (n : ℕ) : Prop :=
  x.abs < (toCents x).abs ∧ (toCents x).abs == Float.ofNat n + 0.5

/-- A half above a whole number is a double. -/
lemma isNumber_half_above (hn : n ≤ 2 ^ 45) :
    IsNumber .positive (n + 1 / 2) (Float.ofNat n + 0.5) := by
  have hexact : rounded ((n : ℚ) + 1 / 2) = n + 1 / 2 := by
    have h := rounded_fraction (k := 2 * n + 1) (d := 1) (by omega) (by norm_num)
    have heq : (n : ℚ) + 1 / 2 = ((2 * n + 1 : ℕ) : ℚ) / 2 ^ 1 := by
      push_cast
      ring
    rw [heq, h]
  have hn : (n : ℚ) ≤ 2 ^ 45 := by exact_mod_cast hn
  have hsum := (isNumber_natCast (n := n) (by omega)).add isNumber_half
    (lt_of_le_digits (by rw [hexact]; linarith))
  rwa [hexact] at hsum

/-- No cents make no whole amount. -/
lemma parts_one_cents_eq_zero (h : parts 100 v = 0) : parts 1 (cents v) = 0 := by
  have hzero : cents v = 0 := by rw [cents, h, Nat.cast_zero, zero_div, rounded_zero]
  rw [← Nat.le_zero, hzero]
  exact parts_le (by norm_num) (by norm_num) (by norm_num)

/-- **An amount and its cents have the same text, or the cents have been lifted to a half.** -/
lemma amountText_toCents (hx : IsNumber s v x) (hv : v ≤ 2 ^ 45) (currency : String) :
    amountText (toCents x) currency = amountText x currency ∨
      hasNoDecimals currency = true ∧ ∃ n, LiftedToHalf x n ∧
        amountText x currency = .ok (wholeText x n) ∧
        amountText (toCents x) currency = .ok (wholeText x (n + 1)) := by
  have hnonneg := hx.nonneg
  have hcents := isNumber_toCents hx hv
  by_cases hcurrency : hasNoDecimals currency = true
  · rw [amountText_eq hcurrency hx hv, amountText_eq hcurrency hcents (cents_le hnonneg hv),
      ite_apply parts_one_cents_eq_zero]
    rcases parts_one_cents hnonneg hv hx.rounded_eq with hsame | ⟨hnext, hhalf, hlt⟩
    · left
      rw [hsame]
    · have hmost : parts 1 v ≤ 2 ^ 45 :=
        parts_le (by linarith) (by norm_num) (by push_cast; linarith)
      refine .inr ⟨hcurrency, parts 1 v, ⟨?_, ?_⟩, ?_, ?_⟩
      · exact (hx.abs.lt_iff hcents.abs).2 ⟨rfl, hlt⟩
      · exact (hcents.abs.beq_iff (isNumber_half_above hmost)).2 hhalf
      · rw [wholeText_eq hx]
      · rw [wholeText_eq hx, hnext]
  · left
    rw [amountText, amountText, if_neg hcurrency, if_neg hcurrency, toCents_toCents hx hv]

/-- The bound is a number. -/
lemma isNumber_bound : IsNumber .positive (2 ^ 45) 35184372088832.0 := by
  have hunpack : (35184372088832.0 : Float).toModel.unpack =
    .finite .positive 0x10000000000000 (-7) (by decide) := rfl
  exact isNumber_of_unpack hunpack ⟨by decide, by decide, .inr (by decide)⟩ (by norm_num)

/-- **An amount and its cents are displayed alike, unless the cents have been lifted to a half** and
the currency has no decimals. Then the amount is displayed as the whole number below, and its cents
as the one above. -/
theorem display_toCents (h : x.isFinite = true) (hbound : x.abs < 35184372088832.0)
    (currency : String) (suffix : Option String) :
    display (toCents x) currency suffix = display x currency suffix ∨
      hasNoDecimals currency = true ∧ ∃ n, LiftedToHalf x n ∧
        display x currency suffix = .ok (wholeText x n ++ " " ++ ending currency suffix) ∧
        display (toCents x) currency suffix =
          .ok (wholeText x (n + 1) ++ " " ++ ending currency suffix) := by
  obtain ⟨s, v, hx⟩ := exists_isNumber h
  have hv : v ≤ 2 ^ 45 := ((hx.abs.lt_iff isNumber_bound).1 hbound).2.le
  rcases amountText_toCents hx hv currency with hsame | ⟨hcurrency, n, hlifted, htext, hcents⟩
  · left
    rw [display.eq_def, display.eq_def, hsame]
  · exact .inr ⟨hcurrency, n, hlifted, display_eq_ok htext, display_eq_ok hcents⟩

end Money

/-! ### Quotes -/

namespace Quote

open Tariff.Money

variable {settings : Settings} {t : Template} {r : Request} {q : Quote}

/-- **What the text of a quote shows.** It displays the total in full precision, of which the price
is the rounding to cents. With decimals the text is that of the price as it is written with two of
them. Below the bound it is the price on display, unless the cents have been lifted to a half in a
currency without decimals: then it shows the whole number below, and the price on display would
show the one above. -/
theorem formattedPrice_of_make (h : make settings (some t) r = .ok q) :
    ∃ n known x count total, Made settings t r n known x ∧ ofInt? n = some count ∧
      exactPrice t n count q.isExpress (toCents x) = total ∧ q.price = toCents total ∧
      q.currency = settings.currency ∧
      display total q.currency (some settings.currencySuffix) = .ok q.formattedPrice ∧
      (hasNoDecimals q.currency = false → q.formattedPrice =
        fixedWith (grouped ' ') 2 q.price ++ " " ++
          ending q.currency (some settings.currencySuffix)) ∧
      (total.abs < 35184372088832.0 →
        display q.price q.currency (some settings.currencySuffix) = .ok q.formattedPrice ∨
          hasNoDecimals q.currency = true ∧ ∃ whole, LiftedToHalf total whole ∧
            q.formattedPrice = wholeText total whole ++ " " ++
              ending q.currency (some settings.currencySuffix) ∧
            display q.price q.currency (some settings.currencySuffix) =
              .ok (wholeText total (whole + 1) ++ " " ++
                ending q.currency (some settings.currencySuffix))) := by
  obtain ⟨n, known, x, hmade, h⟩ := make_eq_ok_iff.1 h
  obtain ⟨count, a, text, hcount, rfl, -, htotal, htext, rfl⟩ := ofUnitPrice_eq_ok_iff.1 h
  refine ⟨n, known, x, count, _, hmade, hcount, rfl, rfl, rfl, htext, ?_, ?_⟩
  · intro hcurrency
    exact Except.ok.inj (htext.symm.trans (display_of_decimals hcurrency))
  · intro hbound
    rcases display_toCents htotal hbound settings.currency (some settings.currencySuffix) with
      hsame | ⟨hcurrency, whole, hlifted, hshown, hprice⟩
    · exact .inl (hsame.trans htext)
    · exact .inr ⟨hcurrency, whole, hlifted, Except.ok.inj (htext.symm.trans hshown), hprice⟩

/-- A template under which one piece costs `0.33`, and `0.495` with the express option. -/
def almostHalf : Template :=
  { oneField with
    name := "One"
    formula := some "0.33"
    fields := []
    hasExpressOption := true
    expressMultiplier := some 1.5 }

/-- A request for one piece with the express option. -/
def onePiece : Request :=
  ⟨[], .int 1, 1.0, true⟩

/-- There is a quote for a piece for almost a half, which is displayed as nothing. -/
lemma exists_quote_almostHalf : ∃ q, make (.standard "") (some almostHalf) onePiece = .ok q ∧
    q.price = 0.5 ∧ q.formattedPrice = "0 Ft" ∧ q.currency = "HUF" := by
  have hq : (make (.standard "") (some almostHalf) onePiece).toOption.map
      (fun q => (q.price, q.formattedPrice, q.currency)) = some (0.5, "0 Ft", "HUF") := by
    decide +kernel
  obtain ⟨q, hmake, hvalues⟩ := Option.map_eq_some_iff.1 hq
  simp only [Prod.mk.injEq] at hvalues
  exact ⟨q, toOption_eq_some_iff.1 hmake, hvalues⟩

/-- The quote for almost a half displays its total in full precision. -/
theorem formattedPrice_of_make_almostHalf :
    ∃ q total, make (.standard "") (some almostHalf) onePiece = .ok q ∧
      q.price = toCents total ∧ display total "HUF" (some "Ft") = .ok q.formattedPrice := by
  obtain ⟨q, hq, -, -, hcurrency⟩ := exists_quote_almostHalf
  obtain ⟨n, known, x, count, total, -, -, -, hprice, -, htext, -⟩ := formattedPrice_of_make hq
  rw [hcurrency] at htext
  exact ⟨q, total, hq, hprice, htext⟩

/-- **The text of a quote is not always its price on display**: `0.495` is displayed as nothing, but
the price of `0.50` as one. -/
theorem display_price_ne : ∃ q, make (.standard "") (some almostHalf) onePiece = .ok q ∧
    q.price = 0.5 ∧ q.formattedPrice = "0 Ft" ∧
      display q.price q.currency (some (Settings.standard "").currencySuffix) = .ok "1 Ft" ∧
      display q.price q.currency (some (Settings.standard "").currencySuffix) ≠
        .ok q.formattedPrice := by
  obtain ⟨q, hq, hprice, htext, hcurrency⟩ := exists_quote_almostHalf
  have hone : display q.price q.currency (some (Settings.standard "").currencySuffix) =
      .ok "1 Ft" := by
    rw [hprice, hcurrency]
    exact toOption_eq_some_iff.1 (by decide +kernel)
  refine ⟨q, hq, hprice, htext, hone, ?_⟩
  rw [hone, htext]
  simp

/-- **The bound is needed**: little beyond it, a price with decimals is not displayed as the quote,
since its cents are rounded to others. -/
theorem display_price_ne_of_large : ∃ q,
    make { Settings.standard "" with currency := "EUR", currencySuffix := "" }
      (some { almostHalf with formula := some "1", expressMultiplier := some 35184372088832.016 })
      onePiece = .ok q ∧
    q.formattedPrice = "35 184 372 088 832.02 EUR" ∧
      display q.price q.currency (some "") = .ok "35 184 372 088 832.03 EUR" := by
  have hq : (make { Settings.standard "" with currency := "EUR", currencySuffix := "" }
      (some { almostHalf with formula := some "1", expressMultiplier := some 35184372088832.016 })
      onePiece).toOption.map (fun q => (q.formattedPrice,
        (display q.price q.currency (some "")).toOption)) =
      some ("35 184 372 088 832.02 EUR", some "35 184 372 088 832.03 EUR") := by
    decide +kernel
  obtain ⟨q, hmake, hvalues⟩ := Option.map_eq_some_iff.1 hq
  obtain ⟨htext, hprice⟩ := Prod.mk.inj hvalues
  exact ⟨q, toOption_eq_some_iff.1 hmake, htext, toOption_eq_some_iff.1 hprice⟩

end Quote

end Tariff
