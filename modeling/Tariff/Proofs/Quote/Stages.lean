import Tariff.Proofs.Quote.Gate

/-!
# How a quote is made

A quote is made in stages, each of which may fail. One that has been made is determined by what
came up on the way: the quantity, the bindings of the formula and its value. From there on only
numbers are computed, and the quote is written down from them.

## Main definitions

* `Tariff.Quote.context` — the bindings of the formula for a request.
* `Tariff.Quote.Made` — what comes up before the value of the formula is priced.
* `Tariff.Quote.amountsOf` — the amounts of a price, by the count of the pieces.
* `Tariff.Breakdown.linesOf` — the lines of a price, by the count of the pieces.
* `Tariff.Quote.written` — the quote that is written down from the amounts.

## Main results

* `Tariff.Quote.acceptQuantity_eq_ok_iff` — the quantities that are accepted.
* `Tariff.Quote.make_eq_ok_iff` — how a quote comes about.
* `Tariff.Quote.ofUnitPrice_eq_ok_iff` — the quote for a value of the formula.
-/

set_option autoImplicit false

namespace Tariff

open Tariff.Money Tariff.Number

/-! ### The count of the pieces -/

/-- A whole number is read as the double next to it, if there is one. -/
lemma toFloat_int_eq_ok_iff {n : Int} {x : Float} :
    (Value.int n).toFloat = .ok x ↔ ofInt? n = some x := by
  rw [Value.toFloat]
  split <;> simp [*]

/-- What meets no fault of data has its value. -/
lemma ofFault_eq_ok_iff {α : Type} {c : Except Fault α} {a : α} :
    Failure.ofFault c = .ok a ↔ c = .ok a :=
  mapError_eq_ok

/-! ### The lines of a breakdown -/

namespace Breakdown

namespace Line

/-- The line of the base price. -/
def base (amount : Float) : Line :=
  ⟨"Product base price", amount, .base⟩

/-- The line of the price of one piece. -/
def unit (amount : Float) : Line :=
  ⟨"Calculated unit price", amount, .calculation⟩

/-- The line of the express option. -/
def express (multiplier amount : Float) : Line :=
  ⟨"Express production (×" ++ generalText multiplier ++ ")", amount, .addon⟩

/-- The line of the quantity. -/
def quantity (quantity : Int) (amount : Float) : Line :=
  ⟨"Quantity (" ++ integerText quantity ++ " pcs)", amount, .addon⟩

/-- The line of the discount. -/
def discount (percent amount : Float) : Line :=
  ⟨"Quantity discount (-" ++ generalText percent ++ "%)", amount, .addon⟩

/-- The line of the price. -/
def total (amount : Float) : Line :=
  ⟨"Total", amount, .total⟩

end Line

/-- The lines of a price, by the count of the pieces. -/
def linesOf (p : Parts) (count : Float) : List Line :=
  [.base (toCents p.basePrice), .unit (toCents p.unitPrice)] ++
  (if p.isExpress then [.express p.expressMultiplier (toCents p.effectiveUnitPrice)] else []) ++
  (if 1 < p.quantity then [.quantity p.quantity (toCents (p.effectiveUnitPrice * count))]
    else []) ++
  (if 0.0 < p.discountPercent then [.discount p.discountPercent (toCents (-p.discountAmount))]
    else []) ++
  [.total (toCents (p.effectiveUnitPrice * count - p.discountAmount))]

/-- There are lines iff the pieces have a count. -/
lemma lines_eq_ok_iff {p : Parts} {ls : List Line} :
    lines p = .ok ls ↔ ∃ count, ofInt? p.quantity = some count ∧ linesOf p count = ls := by
  simp only [lines, lineIf, if_true, decide_eq_true_eq, List.singleton_append, bind_eq_ok,
    toFloat_int_eq_ok_iff, Except.ok.injEq]
  rfl

end Breakdown

namespace Quote

/-! ### Before the formula is priced -/

section

variable {settings : Settings} {t : Template} {r : Request} {q : Quote} {n : Int}
  {quantity : Value}

/-- The quantities that are accepted: whole numbers from one on within the limits. -/
lemma acceptQuantity_eq_ok_iff :
    acceptQuantity t quantity = .ok n ↔ quantity = .int n ∧ 1 ≤ n ∧
      (∀ least ∈ t.minQuantity, least ≤ n) ∧ ∀ most ∈ t.maxQuantity, n ≤ most := by
  cases quantity with
  | int k =>
    simp only [acceptQuantity, Value.int.injEq]
    constructor
    · intro h
      split_ifs at h with hk
      · simp [bind_eq_ok] at h
      split at h
      · simp at h
      next hleast =>
      split at h
      · simp at h
      next hmost =>
      obtain rfl := Except.ok.inj h
      rw [Option.filter_eq_none_iff] at hleast hmost
      exact ⟨rfl, by omega, fun least hl => by simpa using hleast least hl,
        fun most hm => by simpa using hmost most hm⟩
    · rintro ⟨rfl, hone, hleast, hmost⟩
      have hleast : t.minQuantity.filter (fun least => k < least) = none :=
        Option.filter_eq_none_iff.2 fun least hl => by simpa using hleast least hl
      have hmost : t.maxQuantity.filter (fun most => most < k) = none :=
        Option.filter_eq_none_iff.2 fun most hm => by simpa using hmost most hm
      rw [if_neg (by omega), hleast, hmost]
  | _ => simp [acceptQuantity, bind_eq_ok]

/-- The bindings of the formula for a request: the base price, the values of the fields, and the
quantity unless a field has its name. -/
def context (t : Template) (r : Request) (quantity : Int) : Except Failure Formula.Bindings := do
  let values ← t.bind r.values (.int quantity)
  Failure.ofFault <|
    bindings (values.map fun v => (v.1, .float v.2)) (.float r.basePrice) (.int quantity)

/-- After the check the formula is priced under its bindings. -/
lemma afterCheck_eq : afterCheck settings t r n = context t r n >>= fun known =>
    Formula.price settings.limits settings.callLimit t.formula known >>= fun x =>
      ofUnitPrice settings t (t.formula.getD "") r n x := by
  rw [afterCheck, context]
  cases t.bind r.values (.int n) <;> rfl

/-- What comes up before the value of the formula is priced: the quantity `n`, the bindings `known`
and the value `x` of the formula. -/
structure Made (settings : Settings) (t : Template) (r : Request) (n : Int)
    (known : Formula.Bindings) (x : Float) : Prop where
  isActive : t.isActive = true
  /-- no required field is missing -/
  complete : missingField? t.fields r.values = none
  accepted : acceptQuantity t r.quantity = .ok n
  /-- the formula has passed the check -/
  fit : (Formula.check settings.limits t.formula t.variableKeys).isValid = true
  context_eq : context t r n = .ok known
  value_eq : Formula.value settings.limits settings.callLimit t.formula known = .ok x

/-- **How a quote comes about.** The value of the formula is rounded as a price, and the quote is
made from that. -/
theorem make_eq_ok_iff : make settings (some t) r = .ok q ↔
    ∃ n known x, Made settings t r n known x ∧
      ofUnitPrice settings t (t.formula.getD "") r n (toCents x) = .ok q := by
  rw [make_eq]
  constructor
  · intro h
    by_cases hactive : t.isActive = false
    · simp [hactive] at h
    rw [if_neg hactive] at h
    split at h
    · simp at h
    · next hcomplete =>
      obtain ⟨n, haccepted, h⟩ := bind_eq_ok.1 h
      by_cases hfit : (Formula.check settings.limits t.formula t.variableKeys).isValid = false
      · simp [hfit] at h
      rw [if_neg hfit, afterCheck_eq] at h
      obtain ⟨known, hknown, h⟩ := bind_eq_ok.1 h
      obtain ⟨price, hprice, h⟩ := bind_eq_ok.1 h
      obtain ⟨x, hx, rfl⟩ := map_eq_ok.1 hprice
      exact ⟨n, known, x, ⟨by simpa using hactive, hcomplete, haccepted, by simpa using hfit,
        hknown, hx⟩, h⟩
  · rintro ⟨n, known, x, hmade, h⟩
    have hprice : Formula.price settings.limits settings.callLimit t.formula known =
        .ok (toCents x) := by
      rw [Formula.price, hmade.value_eq]
      rfl
    rw [if_neg (by simp [hmade.isActive]), hmade.complete]
    refine bind_eq_ok.2 ⟨n, hmade.accepted, ?_⟩
    rw [if_neg (by simp [hmade.fit]), afterCheck_eq]
    exact bind_eq_ok.2 ⟨known, hmade.context_eq, bind_eq_ok.2 ⟨_, hprice, h⟩⟩

end

/-! ### Amounts -/

section

variable {settings : Settings} {t : Template} {formula : String} {r : Request} {q : Quote}
  {n : Int} {x : Float} {a : Amounts} {isExpress : Bool}

/-- The express option is taken if it is wanted, offered, and makes the price higher. -/
def takesExpress (t : Template) (wanted : Bool) : Bool :=
  wanted && t.hasExpressOption && 1.0 < expressMultiplier t

/-- The amounts of a price, by the count of the pieces. -/
def amountsOf (t : Template) (normalUnitPrice : Float) (quantity : Int) (count : Float)
    (isExpress : Bool) : Amounts :=
  let unitPrice := if isExpress then normalUnitPrice * expressMultiplier t else normalUnitPrice
  let subtotal := unitPrice * count
  let percent := Tier.discountFor t.discountTiers quantity
  ⟨quantity, normalUnitPrice, unitPrice, subtotal, percent,
    if 0.0 < percent then subtotal * percent / 100.0 else 0.0⟩

/-- There are amounts iff the pieces have a count and the price is finite. -/
lemma amounts_eq_ok_iff : amounts t x n isExpress = .ok a ↔
    ∃ count, ofInt? n = some count ∧ amountsOf t x n count isExpress = a ∧
      a.subtotal.isFinite = true ∧ a.total.isFinite = true := by
  simp only [amounts, bind_eq_ok, ofFault_eq_ok_iff, toFloat_int_eq_ok_iff]
  refine exists_congr fun count => and_congr_right fun _ => ?_
  change (if ((amountsOf t x n count isExpress).subtotal.isFinite &&
      (amountsOf t x n count isExpress).total.isFinite) = true
    then Except.ok (amountsOf t x n count isExpress) else _) = _ ↔ _
  constructor
  · intro h
    split at h
    · next hfinite =>
      obtain rfl := Except.ok.inj h
      exact ⟨rfl, Bool.and_eq_true_iff.1 hfinite⟩
    · simp at h
  · rintro ⟨rfl, hfinite⟩
    rw [if_pos (Bool.and_eq_true_iff.2 hfinite)]

/-- The parts of a price that its lines show. -/
def partsOf (t : Template) (r : Request) (a : Amounts) (isExpress : Bool) : Breakdown.Parts :=
  ⟨r.basePrice, a.normalUnitPrice, a.quantity, isExpress, expressMultiplier t, a.discountPercent,
    a.discountAmount⟩

/-- The quote that is written down from amounts, with the price on display in `text`. -/
def written (settings : Settings) (t : Template) (formula : String) (r : Request) (a : Amounts)
    (count : Float) (isExpress : Bool) (text : String) : Quote where
  price := toCents a.total
  baseTotal := toCents (r.basePrice * count)
  breakdown := Breakdown.linesOf (partsOf t r a isExpress) count
  formattedPrice := text
  currency := settings.currency
  templateId := t.id
  templateName := t.name
  discount :=
    if 0.0 < a.discountPercent then
      some ⟨a.discountPercent, toCents a.discountAmount, toCents a.subtotal⟩
    else none
  isExpress := isExpress
  normalPrice := toCents (a.normalUnitPrice * count)
  express :=
    if t.hasExpressOption then
      some ⟨expressMultiplier t, toCents (a.normalUnitPrice * expressMultiplier t * count)⟩
    else none
  warnings := expressWarnings t r.wantsExpress isExpress
  steps := stepsOf t formula a isExpress (toCents a.total)

/-- **The quote for a value of the formula** is written down from the amounts, if the pieces have a
count, the price is finite and it can be displayed. -/
theorem ofUnitPrice_eq_ok_iff : ofUnitPrice settings t formula r n x = .ok q ↔
    ∃ count a text, ofInt? n = some count ∧
      amountsOf t x n count (takesExpress t r.wantsExpress) = a ∧
      a.subtotal.isFinite = true ∧ a.total.isFinite = true ∧
      display a.total settings.currency (some settings.currencySuffix) = .ok text ∧
      written settings t formula r a count (takesExpress t r.wantsExpress) text = q := by
  simp only [ofUnitPrice, bind_eq_ok, ofFault_eq_ok_iff, toFloat_int_eq_ok_iff,
    Breakdown.lines_eq_ok_iff, amounts_eq_ok_iff]
  constructor
  · -- the pieces are counted three times, with the same outcome
    rintro ⟨a, ⟨count, hcount, rfl, hfinite⟩, _, ⟨count', hcount', rfl⟩, count'', hcount'', text,
      htext, h⟩
    obtain rfl : count = count' := Option.some.inj (hcount.symm.trans hcount')
    obtain rfl : count = count'' := Option.some.inj (hcount.symm.trans hcount'')
    exact ⟨count, _, text, hcount, rfl, hfinite.1, hfinite.2, htext, Except.ok.inj h⟩
  · rintro ⟨count, _, text, hcount, rfl, hsubtotal, htotal, htext, rfl⟩
    exact ⟨_, ⟨count, hcount, rfl, hsubtotal, htotal⟩, _, ⟨count, hcount, rfl⟩, count, hcount, text,
      htext, rfl⟩

end

end Quote

end Tariff
