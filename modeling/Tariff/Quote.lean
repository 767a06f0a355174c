import Tariff.Formula.Check
import Tariff.Formula.Evaluation
import Tariff.Money.Format
import Tariff.Quote.Breakdown
import Tariff.Quote.FieldValue
import Tariff.Settings

/-!
# Quotes

A quote is the price of a quantity of a product under a template and the customer's choices. The
formula gives the price of one piece; the express option, the quantity and the discount follow.
Amounts are rounded where they leave the library.

## Main definitions

* `Tariff.Quote` — a quote; `Quote.explanation` is its reasoning in writing.
* `Tariff.Quote.acceptQuantity` — the quantity that is asked for, if it is acceptable.
* `Tariff.Quote.bindings` — the bindings of the formula.
* `Tariff.Quote.make` — the quote for a request.
-/

set_option autoImplicit false

namespace Tariff

open Tariff.Money Tariff.Number

/-- One step of the reasoning behind a quote. -/
structure Step where
  name : String
  description : String
  value : Option String

/-- A step in writing; its value is left out where there is none or it is empty. -/
def Step.text (s : Step) : String :=
  let start := "→ " ++ s.name ++ ": " ++ s.description
  match s.value with
  | some v => if v.isEmpty then start else start ++ " = " ++ v
  | none => start

/-- Steps in writing, one a line. -/
def Step.textOf (steps : List Step) : String :=
  "\n".intercalate (steps.map Step.text)

/-- What comes with a discount. -/
structure Quote.Discount where
  percent : Float
  amount : Float
  /-- the price before the discount -/
  priceBefore : Float

/-- What comes with an express option, be it taken or not. -/
structure Quote.Express where
  multiplier : Float
  /-- the price with the option, before any discount -/
  price : Float

/-- The price of a quantity of a product. -/
structure Quote where
  price : Float
  /-- what the quantity costs at the base price -/
  baseTotal : Float
  breakdown : List Breakdown.Line
  /-- the price on display -/
  formattedPrice : String
  currency : String
  templateId : String
  templateName : String
  discount : Option Quote.Discount
  /-- whether the express option is taken -/
  isExpress : Bool
  /-- the price without express option, before any discount -/
  normalPrice : Float
  express : Option Quote.Express
  warnings : List String
  steps : List Step

namespace Quote

/-- The reasoning behind a quote in writing. -/
def explanation (q : Quote) : String :=
  Step.textOf q.steps

/-- What is asked for. -/
structure Request where
  /-- what the customer submits for the fields, by their keys -/
  values : List (String × Value)
  quantity : Value
  basePrice : Float
  wantsExpress : Bool

/-- The failure of the first required field for which nothing is submitted. A field that selects the
quantity is never missing. -/
def missingField? (fields : List Field) (values : List (String × Value)) : Option Failure :=
  (fields.find? fun f =>
    f.required && f.type != .quantitySelector && (submitted values f.key).isBlank).map
    fun f => .fieldMissing f.key f.label

/-- A quantity is turned away for a limit of the template. The limit is quoted, so it has to be
written, unless the merchant has a wording of their own. -/
def turnedAway (limit : Int) (wording : Option String) (failure : Failure) : Failure :=
  if wording.all (·.isEmpty) && !isWritable limit then .fault .integerUnwritable else failure

/-- The quantity that is asked for: a whole number from one on within the limits. Any other one is
quoted, so it has to be written. -/
def acceptQuantity (t : Template) (quantity : Value) : Except Failure Int :=
  match quantity with
  | .int n =>
    if n < 1 then do .error (.badQuantity (← Failure.ofFault quantity.literal))
    else match t.minQuantity.filter (n < ·) with
      | some least =>
        .error (turnedAway least t.minQuantityMessage (.belowMinimum least t.minQuantityMessage))
      | none =>
        match t.maxQuantity.filter (· < n) with
        | some most =>
          .error (turnedAway most t.maxQuantityMessage (.aboveMaximum most t.maxQuantityMessage))
        | none => .ok n
  | _ => do .error (.badQuantity (← Failure.ofFault quantity.literal))

/-- The bindings of the formula: the base price, the values of the fields, and the quantity unless
there is none or a field has its name. -/
def bindings (values : Formula.Bindings) (basePrice quantity : Value) :
    Except Fault Formula.Bindings := do
  let base ← basePrice.toFloat
  let bound := values.foldl (fun b v => assign v.1 v.2 b) [("base_price", .float base)]
  if quantity matches .null then .ok bound
  else if (lookup? "quantity" values).isSome then .ok bound
  else .ok (assign "quantity" (.float (← quantity.toFloat)) bound)

/-- The multiplier of the express option of a template; none counts as one, and so does zero. -/
def expressMultiplier (t : Template) : Float :=
  match t.expressMultiplier with
  | some m => if m == 0.0 then 1.0 else m
  | none => 1.0

/-- The warnings about an express option that is wanted and not taken. -/
def expressWarnings (t : Template) (wanted taken : Bool) : List String :=
  if !wanted || taken then []
  else if t.hasExpressOption then
    ["Template " ++ t.id ++ " has no valid express multiplier; normal price used"]
  else ["Template " ++ t.id ++ " has no express option; normal price used"]

/-- The amounts of a price in full precision. -/
structure Amounts where
  quantity : Int
  /-- the price of one piece without express option -/
  normalUnitPrice : Float
  /-- the price of one piece -/
  unitPrice : Float
  subtotal : Float
  discountPercent : Float
  discountAmount : Float

/-- The price after the discount, in full precision. -/
def Amounts.total (a : Amounts) : Float :=
  a.subtotal - a.discountAmount

/-- The amounts of a price. They have to be finite. -/
def amounts (t : Template) (normalUnitPrice : Float) (quantity : Int) (isExpress : Bool) :
    Except Failure Amounts := do
  let unitPrice := if isExpress then normalUnitPrice * expressMultiplier t else normalUnitPrice
  let subtotal := unitPrice * (← Failure.ofFault (Value.int quantity).toFloat)
  let percent := Tier.discountFor t.discountTiers quantity
  let discountAmount := if 0.0 < percent then subtotal * percent / 100.0 else 0.0
  let a : Amounts := ⟨quantity, normalUnitPrice, unitPrice, subtotal, percent, discountAmount⟩
  if a.subtotal.isFinite && a.total.isFinite then .ok a
  else .error (.priceTooLarge quantity unitPrice)

/-- The reasoning behind a price. -/
def stepsOf (t : Template) (formula : String) (a : Amounts) (isExpress : Bool) (price : Float) :
    List Step :=
  let money := fixedText 2
  [⟨"Template", t.name ++ " (" ++ t.scope.name ++ ")", some t.id⟩,
    ⟨"Formula", formula, some (money a.normalUnitPrice)⟩] ++
  (if isExpress then
    [⟨"Express", "Unit price × " ++ generalText (expressMultiplier t), some (money a.unitPrice)⟩]
  else []) ++
  [⟨"Extension", "Quantity " ++ integerText a.quantity ++ " × " ++ money a.unitPrice,
    some (money a.subtotal)⟩] ++
  (if 0.0 < a.discountPercent then
    [⟨"Discount", "Quantity tier -" ++ generalText a.discountPercent ++ "%",
      some ("-" ++ money a.discountAmount)⟩]
  else []) ++
  [⟨"Total", "Final price", some (money price)⟩]

/-- The quote for a request under an active template, from the value of its formula on. -/
def ofUnitPrice (settings : Settings) (t : Template) (formula : String) (r : Request)
    (quantity : Int) (normalUnitPrice : Float) : Except Failure Quote := do
  let multiplier := expressMultiplier t
  let isExpress := r.wantsExpress && t.hasExpressOption && 1.0 < multiplier
  let a ← amounts t normalUnitPrice quantity isExpress
  let breakdown ← Failure.ofFault <| Breakdown.lines
    ⟨r.basePrice, normalUnitPrice, quantity, isExpress, multiplier, a.discountPercent,
      a.discountAmount⟩
  let count ← Failure.ofFault (Value.int quantity).toFloat
  let formatted ← Failure.ofFault <|
    display a.total settings.currency (some settings.currencySuffix)
  let price := toCents a.total
  .ok {
    price, breakdown, isExpress
    baseTotal := toCents (r.basePrice * count)
    formattedPrice := formatted
    currency := settings.currency
    templateId := t.id
    templateName := t.name
    discount :=
      if 0.0 < a.discountPercent then
        some ⟨a.discountPercent, toCents a.discountAmount, toCents a.subtotal⟩
      else none
    normalPrice := toCents (normalUnitPrice * count)
    express :=
      if t.hasExpressOption then
        some ⟨multiplier, toCents (normalUnitPrice * multiplier * count)⟩
      else none
    warnings := expressWarnings t r.wantsExpress isExpress
    steps := stepsOf t formula a isExpress price }

/-- The quote for a request. The template has to be in use, the required fields and the quantity
have to be there, and the formula has to be fit, before anything is computed. -/
def make (settings : Settings) (template : Option Template) (r : Request) :
    Except Failure Quote := do
  let some t := template | .error .noTemplate
  if !t.isActive then .error (.inactiveTemplate t.id)
  if let some failure := missingField? t.fields r.values then .error failure
  let quantity ← acceptQuantity t r.quantity
  let report := Formula.check settings.limits t.formula t.variableKeys
  if !report.isValid then .error (.unfitFormula report.problems)
  let values ← t.bind r.values (.int quantity)
  let known ← Failure.ofFault <|
    bindings (values.map fun v => (v.1, .float v.2)) (.float r.basePrice) (.int quantity)
  let normalUnitPrice ← Formula.price settings.limits settings.callLimit t.formula known
  ofUnitPrice settings t (t.formula.getD "") r quantity normalUnitPrice

end Quote

end Tariff
