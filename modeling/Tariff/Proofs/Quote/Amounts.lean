import Tariff.Proofs.Quote.Stages

/-!
# The amounts of a quote

The price of one piece is rounded before it is multiplied, and everything after that is computed in
full precision until the price is written down. So the price of many pieces may differ from the one
that the value of the formula has in full precision. Whatever the amounts are, the breakdown and
the other entries of a quote tell the same ones.

## Main definitions

* `Tariff.Quote.exactPrice` — the price of some pieces in full precision.
* `Tariff.Quote.thirds` — a template whose price of one piece is no whole number of cents.

## Main results

* `Tariff.Quote.price_of_rounded_unit` — the price is exact but for the rounded price of one piece.
* `Tariff.Quote.price_ne_exactPrice` — that rounding shows in the price of several pieces.
* `Tariff.Quote.breakdown_agrees` — the breakdown and the other entries tell the same amounts.
-/

set_option autoImplicit false

namespace Tariff

open Tariff.Money Tariff.Number

namespace Quote

variable {settings : Settings} {t : Template} {r : Request} {q : Quote}

/-! ### The price -/

/-- The price of some pieces at a price of one piece, in full precision: with the express option if
it is taken, and with the discount if there is one. -/
def exactPrice (t : Template) (quantity : Int) (count : Float) (isExpress : Bool)
    (unitPrice : Float) : Float :=
  let subtotal := (if isExpress then unitPrice * expressMultiplier t else unitPrice) * count
  let percent := Tier.discountFor t.discountTiers quantity
  subtotal - if 0.0 < percent then subtotal * percent / 100.0 else 0.0

/-- **The price is exact but for the rounded price of one piece.** It is the price of the pieces in
full precision, rounded at the end, at the value of the formula as that is rounded as a price. -/
theorem price_of_rounded_unit (h : make settings (some t) r = .ok q) :
    ∃ n known x count, Made settings t r n known x ∧ ofInt? n = some count ∧
      q.isExpress = takesExpress t r.wantsExpress ∧
      q.price = toCents (exactPrice t n count q.isExpress (toCents x)) := by
  obtain ⟨n, known, x, hmade, h⟩ := make_eq_ok_iff.1 h
  obtain ⟨count, a, text, hcount, rfl, -, -, -, rfl⟩ := ofUnitPrice_eq_ok_iff.1 h
  exact ⟨n, known, x, count, hmade, hcount, rfl, rfl⟩

/-- A template for a third of the base price, with an express option and a discount. -/
def thirds : Template :=
  { oneField with
    formula := some "base_price / 3"
    fields := []
    hasExpressOption := true
    expressMultiplier := some 1.5
    discountTiers := [⟨2, none, 10.0⟩] }

/-- A request for three pieces with the express option. -/
def threePieces : Request :=
  ⟨[], .int 3, 10.0, true⟩

/-- There is a quote for the three pieces. -/
lemma exists_quote_thirds : ∃ q d, make (.standard "") (some thirds) threePieces = .ok q ∧
    q.isExpress = true ∧ q.price = 13.49 ∧ q.discount = some d ∧ d.percent = 10.0 := by
  have hq : (make (.standard "") (some thirds) threePieces).toOption.map
      (fun q => (q.isExpress, q.price, q.discount.map (·.percent))) =
        some (true, 13.49, some 10.0) := by decide +kernel
  obtain ⟨q, hmake, hvalues⟩ := Option.map_eq_some_iff.1 hq
  simp only [Prod.mk.injEq, Option.map_eq_some_iff] at hvalues
  obtain ⟨hexpress, hprice, d, hd, hpercent⟩ := hvalues
  exact ⟨q, d, toOption_eq_some_iff.1 hmake, hexpress, hprice, hd, hpercent⟩

/-- The price of three thirds is that of three times a rounded third. -/
theorem price_of_rounded_unit_thirds : ∃ q n known x count,
    make (.standard "") (some thirds) threePieces = .ok q ∧
      Made (.standard "") thirds threePieces n known x ∧ ofInt? n = some count ∧
      q.price = toCents (exactPrice thirds n count q.isExpress (toCents x)) := by
  obtain ⟨q, -, hq, -⟩ := exists_quote_thirds
  obtain ⟨n, known, x, count, hmade, hcount, -, hprice⟩ := price_of_rounded_unit hq
  exact ⟨q, n, known, x, count, hq, hmade, hcount, hprice⟩

/-- The formula has a third of ten as its value for the three pieces. -/
lemma eq_of_made_thirds {n : Int} {known : Formula.Bindings} {x : Float}
    (h : Made (.standard "") thirds threePieces n known x) : n = 3 ∧ x = 10.0 / 3.0 := by
  obtain rfl : n = 3 := (Value.int.inj (acceptQuantity_eq_ok_iff.1 h.accepted).1).symm
  have hvalue : ((context thirds threePieces 3).toOption.bind fun known =>
      (Formula.value (Settings.standard "").limits standardCalls thirds.formula known).toOption) =
        some (10.0 / 3.0) := by decide +kernel
  obtain ⟨known', hknown, hx⟩ := Option.bind_eq_some_iff.1 hvalue
  obtain rfl : known = known' :=
    Except.ok.inj (h.context_eq.symm.trans (toOption_eq_some_iff.1 hknown))
  exact ⟨rfl, Except.ok.inj (h.value_eq.symm.trans (toOption_eq_some_iff.1 hx))⟩

/-- **The rounded price of one piece shows in the price of several**: three thirds of ten, at one
and a half times the price and ten percent off, should be 13.50, but a third is rounded to 3.33
first. -/
theorem price_ne_exactPrice : ∃ q n known x count,
    make (.standard "") (some thirds) threePieces = .ok q ∧
      Made (.standard "") thirds threePieces n known x ∧ ofInt? n = some count ∧
      q.price = 13.49 ∧ toCents (exactPrice thirds n count q.isExpress x) = 13.5 ∧
      q.price ≠ toCents (exactPrice thirds n count q.isExpress x) := by
  obtain ⟨q, -, hq, hexpress, hprice, -⟩ := exists_quote_thirds
  obtain ⟨n, known, x, hmade, -⟩ := make_eq_ok_iff.1 hq
  obtain ⟨rfl, rfl⟩ := eq_of_made_thirds hmade
  have hcount : ofInt? 3 = some 3.0 := by decide +kernel
  have hexact : toCents (exactPrice thirds 3 3.0 q.isExpress (10.0 / 3.0)) = 13.5 := by
    rw [hexpress]
    decide +kernel
  refine ⟨q, 3, known, _, 3.0, hq, hmade, hcount, hprice, hexact, ?_⟩
  rw [hprice, hexact]
  decide +kernel

/-! ### The breakdown -/

section

variable {formula text : String} {x count : Float} {n : Int} {isExpress : Bool}

/-- The lines of a quote that is written down from amounts. The one of the discount is there with
the discount. -/
lemma breakdown_written {a : Amounts} (ha : amountsOf t x n count isExpress = a)
    (hq : written settings t formula r a count isExpress text = q) :
    q.breakdown =
      [.base (toCents r.basePrice), .unit (toCents x)] ++
      (if q.isExpress then [.express (expressMultiplier t) (toCents a.unitPrice)] else []) ++
      (if 1 < n then [.quantity n (toCents a.subtotal)] else []) ++
      (q.discount.toList.map fun d => .discount d.percent (toCents (-a.discountAmount))) ++
      [.total q.price] := by
  subst hq
  have hdiscount : ((written settings t formula r a count isExpress text).discount.toList.map
      fun d => Breakdown.Line.discount d.percent (toCents (-a.discountAmount))) =
      if 0.0 < a.discountPercent then
        [.discount a.discountPercent (toCents (-a.discountAmount))]
      else [] := by
    rw [written]
    split <;> rfl
  -- the lines compute the price of one piece and of all again, in the same way as the amounts
  rw [hdiscount]
  subst ha
  rfl

/-- What the pieces cost without the express option is the normal price. -/
lemma subtotal_of_not_express (h : isExpress = false) :
    (amountsOf t x n count isExpress).subtotal = x * count := by
  rw [h]
  rfl

/-- What the pieces cost with the express option is the express price. -/
lemma subtotal_of_express (h : isExpress = true) :
    (amountsOf t x n count isExpress).subtotal = x * expressMultiplier t * count := by
  rw [h]
  rfl

/-- An express option that is taken is offered. -/
lemma hasExpressOption_of_takesExpress {wanted : Bool} (h : takesExpress t wanted = true) :
    t.hasExpressOption = true := by
  rw [takesExpress, Bool.and_eq_true_iff, Bool.and_eq_true_iff] at h
  exact h.1.2

end

/-- **The breakdown and the other entries of a quote tell the same amounts.** There is a line for
the base price and one for the price of one piece, one for the express option iff it is taken, one
for the quantity iff that is above one, one for the discount iff there is one, and in the end one
with the price. What the quantity costs is the price before the discount if there is one, the
express price if the express option is taken, and the normal price if it is not. -/
theorem breakdown_agrees (h : make settings (some t) r = .ok q) :
    ∃ n unitPrice effective subtotal reduction, r.quantity = .int n ∧
      q.breakdown =
        [.base (toCents r.basePrice), .unit unitPrice] ++
        (if q.isExpress then [.express (expressMultiplier t) effective] else []) ++
        (if 1 < n then [.quantity n subtotal] else []) ++
        (q.discount.toList.map fun d => .discount d.percent reduction) ++ [.total q.price] ∧
      (∀ d ∈ q.discount, subtotal = d.priceBefore) ∧
      (q.isExpress = true → ∃ e ∈ q.express, subtotal = e.price) ∧
      (q.isExpress = false → subtotal = q.normalPrice) := by
  obtain ⟨n, known, x, hmade, h⟩ := make_eq_ok_iff.1 h
  obtain ⟨count, a, text, -, ha, -, -, -, hq⟩ := ofUnitPrice_eq_ok_iff.1 h
  have hquantity := (acceptQuantity_eq_ok_iff.1 hmade.accepted).1
  have hlines := breakdown_written ha hq
  subst ha hq
  refine ⟨n, _, _, _, _, hquantity, hlines, ?_, ?_, ?_⟩
  · intro d hd
    rw [written] at hd
    split at hd
    · obtain rfl := Option.mem_some_iff.1 hd
      rfl
    · simp at hd
  · intro hexpress
    refine ⟨⟨expressMultiplier t, toCents (toCents x * expressMultiplier t * count)⟩, ?_, ?_⟩
    · exact if_pos (hasExpressOption_of_takesExpress hexpress)
    · exact congrArg toCents (subtotal_of_express hexpress)
  · intro hnormal
    exact congrArg toCents (subtotal_of_not_express hnormal)

/-- The breakdown of three thirds has all lines, and what they cost is the express price. -/
theorem breakdown_agrees_thirds : ∃ q unitPrice effective subtotal reduction,
    make (.standard "") (some thirds) threePieces = .ok q ∧
      q.breakdown = [.base (toCents 10.0), .unit unitPrice, .express 1.5 effective,
        .quantity 3 subtotal, .discount 10.0 reduction, .total 13.49] ∧
      ∃ e ∈ q.express, subtotal = e.price := by
  obtain ⟨q, d, hq, hexpress, hprice, hd, hpercent⟩ := exists_quote_thirds
  obtain ⟨n, unitPrice, effective, subtotal, reduction, hn, hlines, -, hsubtotal, -⟩ :=
    breakdown_agrees hq
  obtain rfl : n = 3 := (Value.int.inj hn).symm
  have hmultiplier : expressMultiplier thirds = 1.5 := by decide +kernel
  rw [if_pos hexpress, hmultiplier, hd, Option.toList_some, List.map_singleton, hpercent,
    hprice] at hlines
  exact ⟨q, unitPrice, effective, subtotal, reduction, hq, hlines, hsubtotal hexpress⟩

end Quote

end Tariff
