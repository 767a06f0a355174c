import Tariff.Proofs.Money.Rounding
import Tariff.Proofs.Quote.Amounts

/-!
# Finite quotes

A quote is made only if what the pieces cost, before and after the discount, is finite. That covers
all that is charged: each of these numbers is a part of what the pieces cost, or what they cost
contains it. Two numbers of a quote are not charged. They are what the pieces cost at the base
price, and what they would cost with an express option that is not taken. Nothing covers these, and
they may be infinite.

## Main definitions

* `Tariff.Quote.IsFinite` — all numbers of a quote are finite.
* `Tariff.Quote.ChargeIsFinite` — all numbers of a quote that are charged are finite.
* `Tariff.Quote.Amounts.AreFinite` — the amounts of a price are finite.

## Main results

* `Tariff.Quote.areFinite_amountsOf` — what the finite price of some pieces is made of is finite.
* `Tariff.Quote.finite_of_make` — what is charged is finite, and when all of a quote is.
* `Tariff.Quote.not_isFinite_of_make` — a quote that is not finite.
-/

set_option autoImplicit false

namespace Tariff

open Tariff.Money Tariff.Number

namespace Quote

/-- All numbers of a quote are finite. -/
structure IsFinite (q : Quote) : Prop where
  price : q.price.isFinite = true
  baseTotal : q.baseTotal.isFinite = true
  normalPrice : q.normalPrice.isFinite = true
  breakdown : ∀ l ∈ q.breakdown, l.amount.isFinite = true
  discount : ∀ d ∈ q.discount,
    d.percent.isFinite = true ∧ d.amount.isFinite = true ∧ d.priceBefore.isFinite = true
  express : ∀ e ∈ q.express, e.multiplier.isFinite = true ∧ e.price.isFinite = true

/-- All numbers of a quote that are charged are finite: all but the total at the base price and an
express option that is not taken. -/
structure ChargeIsFinite (q : Quote) : Prop where
  price : q.price.isFinite = true
  normalPrice : q.normalPrice.isFinite = true
  breakdown : ∀ l ∈ q.breakdown, l.amount.isFinite = true
  discount : ∀ d ∈ q.discount,
    d.percent.isFinite = true ∧ d.amount.isFinite = true ∧ d.priceBefore.isFinite = true
  express : q.isExpress = true →
    ∀ e ∈ q.express, e.multiplier.isFinite = true ∧ e.price.isFinite = true

/-- A quote is finite iff what is charged is, and what is not charged as well. -/
lemma isFinite_iff {q : Quote} : q.IsFinite ↔ q.ChargeIsFinite ∧ q.baseTotal.isFinite = true ∧
    ∀ e ∈ q.express, e.multiplier.isFinite = true ∧ e.price.isFinite = true := by
  constructor
  · intro h
    exact ⟨⟨h.price, h.normalPrice, h.breakdown, h.discount, fun _ => h.express⟩, h.baseTotal,
      h.express⟩
  · rintro ⟨h, hbase, hexpress⟩
    exact ⟨h.price, hbase, h.normalPrice, h.breakdown, h.discount, hexpress⟩

/-! ### Amounts -/

section

variable {settings : Settings} {t : Template} {formula text : String} {r : Request} {q : Quote}
  {n : Int} {x count : Float} {a : Amounts} {isExpress : Bool}

/-- The amounts of a price are finite, and so is what the pieces cost without express option. -/
structure Amounts.AreFinite (a : Amounts) (count : Float) : Prop where
  normalUnitPrice : a.normalUnitPrice.isFinite = true
  unitPrice : a.unitPrice.isFinite = true
  normalTotal : (a.normalUnitPrice * count).isFinite = true
  subtotal : a.subtotal.isFinite = true
  percent : 0.0 < a.discountPercent → a.discountPercent.isFinite = true
  discountAmount : a.discountAmount.isFinite = true
  total : a.total.isFinite = true

/-- An express option that is taken makes the price higher. -/
lemma one_lt_of_takesExpress {wanted : Bool} (h : takesExpress t wanted = true) :
    1.0 < expressMultiplier t := by
  rw [takesExpress, Bool.and_eq_true_iff] at h
  exact of_decide_eq_true h.2

/-- **What the finite price of some pieces is made of is finite.** The factors of a finite product
are, and so is the product without a factor above one. The discount is what is subtracted to a
finite difference, and its percentage is a factor of it. -/
lemma areFinite_amountsOf (ha : amountsOf t x n count isExpress = a)
    (hgreater : isExpress = true → 1.0 < expressMultiplier t)
    (hsubtotal : a.subtotal.isFinite = true) (htotal : a.total.isFinite = true) :
    a.AreFinite count := by
  subst ha
  have hunit := (isFinite_of_mul hsubtotal).1
  have hreduction := isFinite_of_sub htotal
  refine ⟨?_, hunit, ?_, hsubtotal, ?_, hreduction, htotal⟩
  · cases isExpress with
    | false => exact hunit
    | true => exact (isFinite_of_mul hunit).1
  · cases isExpress with
    | false => exact hsubtotal
    | true => exact isFinite_mul_of_greater hsubtotal (hgreater rfl)
  · intro hsome
    have heq : (amountsOf t x n count isExpress).discountAmount =
        (amountsOf t x n count isExpress).subtotal *
          (amountsOf t x n count isExpress).discountPercent / 100.0 := if_pos hsome
    rw [heq] at hreduction
    exact (isFinite_of_mul (isFinite_of_div hreduction)).2

/-- The discount of a quote that is written down from finite amounts is finite. -/
lemma discountIsFinite_written (h : a.AreFinite count)
    (hq : written settings t formula r a count isExpress text = q) : ∀ d ∈ q.discount,
      d.percent.isFinite = true ∧ d.amount.isFinite = true ∧ d.priceBefore.isFinite = true := by
  intro d hd
  rw [← hq, written, Option.mem_def, Option.ite_none_right_eq_some] at hd
  obtain ⟨hsome, hd⟩ := hd
  obtain rfl := Option.some.inj hd
  exact ⟨h.percent hsome, isFinite_toCents_iff.2 h.discountAmount,
    isFinite_toCents_iff.2 h.subtotal⟩

/-- The lines of the breakdown are finite: they are the amounts, the base price and the price. -/
lemma breakdownIsFinite_written (ha : amountsOf t x n count isExpress = a) (h : a.AreFinite count)
    (hbase : r.basePrice.isFinite = true)
    (hq : written settings t formula r a count isExpress text = q) :
    ∀ l ∈ q.breakdown, l.amount.isFinite = true := by
  have hprice : q.price.isFinite = true := by
    rw [← hq]
    exact isFinite_toCents_iff.2 h.total
  have hunit : x.isFinite = true := by
    rw [← ha] at h
    exact h.normalUnitPrice
  intro l hl
  simp only [breakdown_written ha hq, List.mem_append, List.mem_cons, List.not_mem_nil, or_false,
    List.mem_ite_nil_right, List.mem_map, Option.mem_toList] at hl
  obtain ((((rfl | rfl) | ⟨-, rfl⟩) | ⟨-, rfl⟩) | ⟨d, -, rfl⟩) | rfl := hl
  · exact isFinite_toCents_iff.2 hbase
  · exact isFinite_toCents_iff.2 hunit
  · exact isFinite_toCents_iff.2 h.unitPrice
  · exact isFinite_toCents_iff.2 h.subtotal
  · exact isFinite_toCents_iff.2 (isFinite_neg h.discountAmount)
  · exact hprice

/-- The express option of a quote is finite iff what the pieces cost with it is: its multiplier is
a factor of that. -/
lemma expressIsFinite_written_iff (ha : amountsOf t x n count isExpress = a)
    (hq : written settings t formula r a count isExpress text = q) :
    (∀ e ∈ q.express, e.multiplier.isFinite = true ∧ e.price.isFinite = true) ↔
      (t.hasExpressOption = true → (x * expressMultiplier t * count).isFinite = true) := by
  subst ha hq
  simp only [written, Option.mem_def, Option.ite_none_right_eq_some, Option.some.injEq]
  constructor
  · intro hfinite hoffered
    exact isFinite_toCents_iff.1 (hfinite _ ⟨hoffered, rfl⟩).2
  · rintro hfinite _ ⟨hoffered, rfl⟩
    have hproduct := hfinite hoffered
    exact ⟨(isFinite_of_mul (isFinite_of_mul hproduct).1).2, isFinite_toCents_iff.2 hproduct⟩

/-- A quote that is written down from finite amounts has a finite charge. -/
lemma chargeIsFinite_written (ha : amountsOf t x n count isExpress = a) (h : a.AreFinite count)
    (hbase : r.basePrice.isFinite = true)
    (hq : written settings t formula r a count isExpress text = q) : q.ChargeIsFinite where
  price := by
    rw [← hq]
    exact isFinite_toCents_iff.2 h.total
  normalPrice := by
    rw [← hq]
    exact isFinite_toCents_iff.2 h.normalTotal
  breakdown := breakdownIsFinite_written ha h hbase hq
  discount := discountIsFinite_written h hq
  express := by
    intro htaken
    obtain rfl : isExpress = true := by rwa [← hq] at htaken
    refine (expressIsFinite_written_iff ha hq).2 fun _ => ?_
    have hsubtotal := h.subtotal
    rwa [← ha, subtotal_of_express rfl] at hsubtotal

end

/-! ### Quotes -/

variable {settings : Settings} {t : Template} {r : Request} {q : Quote}

/-- **What is charged is finite.** A quote with a finite base price has a finite charge. All of it
is finite iff two more products are: what the pieces cost at the base price, and what they cost with
the express option, if there is one. -/
theorem finite_of_make (h : make settings (some t) r = .ok q)
    (hbase : r.basePrice.isFinite = true) :
    ∃ n known x count, Made settings t r n known x ∧ ofInt? n = some count ∧ q.ChargeIsFinite ∧
      (q.IsFinite ↔ (r.basePrice * count).isFinite = true ∧
        (t.hasExpressOption = true →
          (toCents x * expressMultiplier t * count).isFinite = true)) := by
  obtain ⟨n, known, x, hmade, h⟩ := make_eq_ok_iff.1 h
  obtain ⟨count, a, text, hcount, ha, hsubtotal, htotal, -, hq⟩ := ofUnitPrice_eq_ok_iff.1 h
  have hamounts := areFinite_amountsOf ha one_lt_of_takesExpress hsubtotal htotal
  have hcharge := chargeIsFinite_written ha hamounts hbase hq
  refine ⟨n, known, x, count, hmade, hcount, hcharge, ?_⟩
  have hbaseTotal : q.baseTotal.isFinite = true ↔ (r.basePrice * count).isFinite = true := by
    rw [← hq]
    exact isFinite_toCents_iff
  rw [isFinite_iff, hbaseTotal, expressIsFinite_written_iff ha hq]
  exact and_iff_right hcharge

/-- All of the quote for three thirds is finite. -/
theorem finite_of_make_thirds :
    ∃ q, make (.standard "") (some thirds) threePieces = .ok q ∧ q.IsFinite := by
  obtain ⟨q, -, hq, -⟩ := exists_quote_thirds
  obtain ⟨n, known, x, count, hmade, hcount, -, hfinite⟩ := finite_of_make hq (by decide +kernel)
  obtain ⟨rfl, rfl⟩ := eq_of_made_thirds hmade
  have hthree : ofInt? 3 = some 3.0 := by decide +kernel
  obtain rfl : 3.0 = count := Option.some.inj (hthree.symm.trans hcount)
  exact ⟨q, hq, hfinite.2 ⟨by decide +kernel, fun _ => by decide +kernel⟩⟩

/-- A template under which one piece costs one, whatever the base price. -/
def flat : Template :=
  { oneField with name := "One", fields := [], formula := some "1" }

/-- **What is not charged may be infinite**: ten pieces cost ten, and at a base price of `1e308`
they would cost more than the greatest double. -/
theorem not_isFinite_of_make : (1e308 : Float).isFinite = true ∧
    ∃ q, make (.standard "") (some flat) ⟨[], .int 10, 1e308, false⟩ = .ok q ∧
      q.price = 10.0 ∧ q.baseTotal.isFinite = false ∧ ¬q.IsFinite := by
  have hq : (make (.standard "") (some flat) ⟨[], .int 10, 1e308, false⟩).toOption.map
      (fun q => (q.price, q.baseTotal.isFinite)) = some (10.0, false) := by decide +kernel
  obtain ⟨q, hmake, hvalues⟩ := Option.map_eq_some_iff.1 hq
  obtain ⟨hprice, hbase⟩ := Prod.mk.inj hvalues
  refine ⟨by decide +kernel, q, toOption_eq_some_iff.1 hmake, hprice, hbase, fun hfinite => ?_⟩
  rw [hfinite.baseTotal] at hbase
  simp at hbase

end Quote

end Tariff
