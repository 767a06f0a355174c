import Tariff.Proofs.Formula.Checking
import Tariff.Proofs.Formula.Room
import Tariff.Proofs.Members
import Tariff.Quote

/-!
# The check stands before the evaluation

A quote is made from a formula that has passed the check against the keys of the template. Each name
of the formula then has a number, so its evaluation can only fail because of the numbers that come
up, or because its calls are nested more deeply than there is room for.

## Main definitions

* `Tariff.Quote.Bound` — what is bound under the names of a quote.
* `Tariff.Quote.oneField` — a template with one field, as an example.
* `Tariff.Quote.afterCheck` — the quote for a request after the check of the formula.

## Main results

* `Tariff.Template.mem_keys_bind` — the fields that the formula may use are bound.
* `Tariff.Quote.bound_of_bindings` — the names that the check knows are bound to doubles.
* `Tariff.Quote.price_after_check` — how the evaluation of a checked formula ends.
* `Tariff.Quote.isNumeric_of_make` — how a formula keeps a quote from being made.
-/

set_option autoImplicit false

namespace Tariff

open Tariff.Formula Tariff.Number

variable {key name : String} {quantity : Value} {submitted : List (String × Value)}
  {values : List (String × Float)}

/-! ### What is bound -/

/-- The keys of the fields are bound, besides those bound before. -/
lemma mem_keys_bindFields {fields : List Field} {bound : List (String × Float)}
    (h : bindFields submitted quantity bound fields = .ok values) :
    key ∈ values.map (·.1) ↔ key ∈ fields.map (·.key) ∨ key ∈ bound.map (·.1) := by
  induction fields generalizing bound with
  | nil =>
    obtain rfl := Except.ok.inj h
    simp
  | cons f fields ih =>
    rw [bindFields, bind_eq_ok] at h
    obtain ⟨v, -, h⟩ := h
    rw [ih h, mem_keys_assign, List.map_cons, List.mem_cons, or_left_comm, or_assoc]

/-- The keys that the formula of a template may use are bound, and no other. -/
theorem Template.mem_keys_bind {t : Template} (h : t.bind submitted quantity = .ok values) :
    key ∈ values.map (·.1) ↔ key ∈ t.variableKeys := by
  rw [mem_keys_bindFields h, Template.variableKeys]
  simp

namespace Quote

/-- What is bound under the names of a quote. -/
structure Bound (values : List (String × Float)) (known : Bindings) : Prop where
  /-- the base price and the values of the fields are bound -/
  covers : ∀ name, name = "base_price" ∨ name ∈ values.map (·.1) → name ∈ known.map (·.1)
  /-- only doubles are bound -/
  isFloat : ∀ m ∈ known, ∃ x, m.2 = .float x

/-- A bound name has a number. -/
lemma Bound.exists_numberOf {known : Bindings} (h : Bound values known)
    (hname : name = "base_price" ∨ name ∈ values.map (·.1)) :
    ∃ x, numberOf known name = .ok x := by
  obtain ⟨v, hv⟩ := Option.isSome_iff_exists.1 (isSome_lookup?_iff.2 (h.covers name hname))
  obtain ⟨x, hx⟩ := h.isFloat _ (mem_of_lookup? hv)
  obtain rfl : v = .float x := hx
  exact ⟨x, by rw [numberOf, hv]⟩

/-- One more double does no harm to what is bound. -/
lemma Bound.assign {known : Bindings} (h : Bound values known) (name : String) (x : Float) :
    Bound values (Tariff.assign name (.float x) known) where
  covers key hkey := mem_keys_assign.2 (.inr (h.covers key hkey))
  isFloat m hm := by
    rcases mem_of_mem_assign hm with rfl | hm
    · exact ⟨x, rfl⟩
    · exact h.isFloat m hm

/-- The values of the fields are bound on top of the base price. -/
lemma bound_foldl (values : List (String × Float)) (base : Float) :
    Bound values ((values.map fun v => (v.1, Value.float v.2)).foldl
      (fun b v => Tariff.assign v.1 v.2 b) [("base_price", .float base)]) where
  covers name hname := by
    rw [mem_keys_foldl_assign, List.map_map, List.map_singleton, List.mem_singleton]
    exact hname.symm
  isFloat m hm := by
    rcases mem_of_mem_foldl_assign hm with hm | hm
    · obtain ⟨v, -, rfl⟩ := List.mem_map.1 hm
      exact ⟨v.2, rfl⟩
    · obtain rfl := List.mem_singleton.1 hm
      exact ⟨base, rfl⟩

/-- The bindings of a quote bind the base price and the values of the fields to doubles, and what
comes on top of them is the quantity. -/
theorem bound_of_bindings {known : Bindings} {base : Float}
    (h : bindings (values.map fun v => (v.1, .float v.2)) (.float base) quantity = .ok known) :
    Bound values known := by
  have hbase : (Value.float base).toFloat = .ok base := rfl
  simp only [bindings, hbase, bind_eq_ok, Except.ok.injEq, exists_eq_left'] at h
  split_ifs at h
  · obtain rfl := Except.ok.inj h
    exact bound_foldl values base
  · obtain rfl := Except.ok.inj h
    exact bound_foldl values base
  · obtain ⟨x, -, h⟩ := bind_eq_ok.1 h
    obtain rfl := Except.ok.inj h
    exact (bound_foldl values base).assign "quantity" x

/-- Only a quantity that is beyond the doubles cannot be bound. -/
theorem eq_tooLarge_of_bindings {known : Bindings} {n : Int} {base : Float} {fault : Fault}
    (h : bindings known (.float base) (.int n) = .error fault) :
    ofInt? n = none ∧ fault = .tooLarge := by
  have hbase : (Value.float base).toFloat = .ok base := rfl
  simp only [bindings, hbase, bind_eq_error, Except.ok.injEq, exists_eq_left', reduceCtorEq,
    false_or] at h
  split_ifs at h
  rw [bind_eq_error] at h
  rcases h with h | ⟨x, -, h⟩
  · rw [Value.toFloat] at h
    split at h
    · simp at h
    · next hn => exact ⟨hn, (Except.error.inj h).symm⟩
  · simp at h

/-! ### Evaluation after the check -/

/-- With numbers for the names that the check knows, a checked formula fails for numeric reasons or
for want of room only.

**Proof sketch.** A formula that passes the check is read to a tree with known names
(`isValid_check_iff_parse`). Each of them has a number, so of the reasons for a failure
(`value_error`) the numeric errors and the want of room remain, and there is room for the calls
unless it is less than they take (`takesRoom_value`). -/
theorem isNumeric_of_price {limits : Limits} {room : Nat} {formula : Option String}
    {keys : List String} {known : Bindings} {f : Failure}
    (hfit : (check limits formula keys).isValid = true)
    (hknown : ∀ name, name = "base_price" ∨ name ∈ keys → ∃ x, numberOf known name = .ok x)
    (h : Formula.price limits room formula known = .error f) :
    (∃ cause : Formula.Error, f = .formula cause ∧ cause.isNumeric = true) ∨
      f = .fault .callsExhausted ∧ ∃ tree, parse limits formula = .ok tree ∧ room < tree.calls := by
  cases formula with
  | none => simp [check, Report.isValid] at hfit
  | some text =>
    obtain ⟨-, t, ht, hnames⟩ := isValid_check_iff_parse.1 hfit
    rcases value_error (map_eq_error.1 h) with ⟨cause, hcause, -⟩ | ⟨t', ht', hstop⟩
    · rw [ht] at hcause
      simp at hcause
    · obtain rfl : t = t' := by simpa using ht.symm.trans ht'
      cases hstop with
      | name hname hfail =>
        obtain ⟨x, hx⟩ := hknown _ (hnames _ hname).symm
        cases hx.symm.trans hfail
      | numeric hnumeric => exact .inl ⟨_, rfl, hnumeric⟩
      | calls =>
        exact .inr ⟨rfl, t, ht, (takesRoom_value known ht).lt_of_eq_exhausted (map_eq_error.1 h)⟩

/-- **A checked formula is evaluated.** After the formula of a template has passed the check against
its keys and the submitted values have been reduced to numbers, the bindings of the formula can only
fail to be made for a quantity beyond the doubles. Under the bindings that are made the formula has
a price, or it fails for a numeric reason: null where a number is needed, a result that is not a
finite number, or digits that cannot be rounded to. Otherwise its calls are nested more deeply than
there is room for. -/
theorem price_after_check (settings : Settings) (t : Template)
    (submitted : List (String × Value)) (quantity : Int) (basePrice : Float)
    (values : List (String × Float))
    (hfit : (check settings.limits t.formula t.variableKeys).isValid = true)
    (hvalues : t.bind submitted (.int quantity) = .ok values) :
    (∀ fault, bindings (values.map fun v => (v.1, .float v.2)) (.float basePrice) (.int quantity) =
      .error fault → ofInt? quantity = none ∧ fault = .tooLarge) ∧
    ∀ known, bindings (values.map fun v => (v.1, .float v.2)) (.float basePrice) (.int quantity) =
      .ok known →
      (∃ x, Formula.price settings.limits settings.callLimit t.formula known = .ok x) ∨
      (∃ cause : Formula.Error,
        Formula.price settings.limits settings.callLimit t.formula known =
          .error (.formula cause) ∧ cause.isNumeric = true) ∨
      Formula.price settings.limits settings.callLimit t.formula known =
          .error (.fault .callsExhausted) ∧
        ∃ tree, parse settings.limits t.formula = .ok tree ∧ settings.callLimit < tree.calls := by
  refine ⟨fun fault => eq_tooLarge_of_bindings, ?_⟩
  intro known hknown
  cases hprice : Formula.price settings.limits settings.callLimit t.formula known with
  | ok x => exact .inl ⟨x, rfl⟩
  | error f =>
    have hbound := bound_of_bindings hknown
    rcases isNumeric_of_price hfit
      (fun name hname => hbound.exists_numberOf (hname.imp id (Template.mem_keys_bind hvalues).2))
      hprice with ⟨cause, rfl, hnumeric⟩ | ⟨rfl, hshort⟩
    · exact .inr (.inl ⟨cause, rfl, hnumeric⟩)
    · exact .inr (.inr ⟨rfl, hshort⟩)

/-- A template with one field, whose value is the price of one piece. -/
def oneField : Template where
  id := "t"
  name := ""
  formula := some "x"
  scope := .global
  scopeValues := []
  fields := [⟨"x", .number, "", false, true, [], 0⟩]
  isActive := true
  description := none
  hasExpressOption := false
  expressMultiplier := none
  expressLabel := none
  normalLabel := none
  minQuantity := none
  maxQuantity := none
  minQuantityMessage := none
  maxQuantityMessage := none
  discountTiers := []
  priority := 0
  createdAt := none

/-- The one field gives its number to the formula. -/
lemma variableFields_oneField : oneField.variableFields = oneField.fields := by
  simp [oneField, Template.variableFields, Field.inDisplayOrder, Field.givesNumber,
    FieldType.isNumeric]

/-- A formula that is the key of a field is evaluated after the check. -/
theorem price_after_check_oneField :
    (check (Settings.standard "").limits oneField.formula oneField.variableKeys).isValid = true ∧
    oneField.bind [("x", .float 2.0)] (.int 1) = .ok [("x", 2.0)] ∧
    ∀ known, bindings [("x", .float 2.0)] (.float 5.0) (.int 1) = .ok known →
      (∃ x, Formula.price (Settings.standard "").limits standardCalls oneField.formula known =
        .ok x) ∨
      ∃ cause : Formula.Error, Formula.price (Settings.standard "").limits standardCalls
        oneField.formula known = .error (.formula cause) ∧ cause.isNumeric = true := by
  have hfit : (check (Settings.standard "").limits oneField.formula
      oneField.variableKeys).isValid = true := by
    rw [Template.variableKeys, variableFields_oneField]
    rfl
  have hvalues : oneField.bind [("x", .float 2.0)] (.int 1) = .ok [("x", 2.0)] := by
    rw [Template.bind, variableFields_oneField]
    rfl
  refine ⟨hfit, hvalues, fun known hknown => ?_⟩
  rcases (price_after_check (Settings.standard "") oneField [("x", .float 2.0)] 1 5.0 [("x", 2.0)]
    hfit hvalues).2 known hknown with hprice | hnumeric | ⟨-, tree, htree, hshort⟩
  · exact .inl hprice
  · exact .inr hnumeric
  · obtain rfl : .named "x" = tree := Except.ok.inj htree
    exact absurd hshort (by decide)

/-! ### Quotes -/

/-- The quote for a request whose quantity has been accepted, under a template whose formula has
passed the check. -/
def afterCheck (settings : Settings) (t : Template) (r : Request) (quantity : Int) :
    Except Failure Quote := do
  let values ← t.bind r.values (.int quantity)
  let known ← Failure.ofFault <|
    bindings (values.map fun v => (v.1, .float v.2)) (.float r.basePrice) (.int quantity)
  let normalUnitPrice ← Formula.price settings.limits settings.callLimit t.formula known
  ofUnitPrice settings t (t.formula.getD "") r quantity normalUnitPrice

/-- A quote is made in stages. -/
lemma make_eq (settings : Settings) (t : Template) (r : Request) :
    make settings (some t) r =
      if t.isActive = false then .error (.inactiveTemplate t.id)
      else match missingField? t.fields r.values with
        | some failure => .error failure
        | none => acceptQuantity t r.quantity >>= fun quantity =>
          if (check settings.limits t.formula t.variableKeys).isValid = false then
            .error (.unfitFormula (check settings.limits t.formula t.variableKeys).problems)
          else afterCheck settings t r quantity := by
  have herror : ∀ {α β : Type} (f : Failure) (k : α → Except Failure β),
      (.error f >>= k) = .error f := fun _ _ => rfl
  cases hactive : t.isActive with
  | false => simp only [make, hactive, Bool.not_false, if_true, herror]
  | true =>
    cases hmissing : missingField? t.fields r.values with
    | some failure => simp [make, hactive, hmissing, herror]
    | none =>
      cases hfit : (check settings.limits t.formula t.variableKeys).isValid with
      | false => simp [make, hactive, hmissing, hfit, herror]
      | true => simp [make, hactive, hmissing, hfit, afterCheck]

variable {settings : Settings} {t : Template} {r : Request} {n : Int} {x : Float}
  {cause : Formula.Error}

/-- A fault of data is no error of a formula. -/
lemma ofFault_ne {α : Type} {c : Except Fault α} : Failure.ofFault c ≠ .error (.formula cause) := by
  intro h
  obtain ⟨fault, -, hf⟩ := mapError_eq_error.1 h
  simp at hf

/-- A quantity is turned away for reasons that are not the formula's. -/
lemma acceptQuantity_ne {quantity : Value} :
    acceptQuantity t quantity ≠ .error (.formula cause) := by
  have hquoted : ∀ {r : Except Fault String},
      (Failure.ofFault r >>= fun q => .error (.badQuantity q) : Except Failure Int) ≠
        .error (.formula cause) := by
    intro r h
    rcases bind_eq_error.1 h with h | ⟨q, -, h⟩
    · exact ofFault_ne h
    · cases h
  have hlimit : ∀ {limit : Int} {wording : Option String} {failure : Failure},
      turnedAway limit wording failure = .formula cause → failure = .formula cause := by
    intro limit wording failure h
    unfold turnedAway at h
    split at h
    · cases h
    · exact h
  intro h
  unfold acceptQuantity at h
  split at h
  · split at h
    · exact hquoted h
    · split at h
      · cases hlimit (Except.error.inj h)
      · split at h
        · cases hlimit (Except.error.inj h)
        · cases h
  · exact hquoted h

/-- A submitted value is turned away for reasons that are not the formula's. -/
lemma interpret_ne {f : Field} {v : Value} : f.interpret v ≠ .error (.formula cause) := by
  have hdeltas : ∀ (vs : List Value) (sum : Float),
      f.addDeltas sum vs ≠ .error (.formula cause) := by
    intro vs
    induction vs with
    | nil => simp [Field.addDeltas]
    | cons v vs ih =>
      intro sum h
      unfold Field.addDeltas at h
      rcases bind_eq_error.1 h with h | ⟨s, -, h⟩
      · exact ofFault_ne h
      split at h
      · exact ih _ h
      · simp at h
  intro h
  unfold Field.interpret at h
  split at h
  · split at h <;> simp at h
  · exact ofFault_ne h
  · exact ofFault_ne h
  · split_ifs at h
    · rcases bind_eq_error.1 h with h | ⟨selected, -, h⟩
      · exact ofFault_ne h
      rcases bind_eq_error.1 h with h | ⟨delta, -, h⟩
      · exact hdeltas _ _ h
      rcases bind_eq_error.1 h with h | ⟨texts, -, h⟩
      · exact ofFault_ne h
      · simp at h
    · split at h
      · split at h <;> simp at h
      · rcases bind_eq_error.1 h with h | ⟨literal, -, h⟩
        · exact ofFault_ne h
        · simp at h

/-- The values of fields are turned away for reasons that are not the formula's. -/
lemma bindFields_ne {fields : List Field} {bound : List (String × Float)} :
    bindFields submitted quantity bound fields ≠ .error (.formula cause) := by
  induction fields generalizing bound with
  | nil => simp [bindFields]
  | cons f fields ih =>
    intro h
    rw [bindFields] at h
    rcases bind_eq_error.1 h with h | ⟨v, -, h⟩
    · exact interpret_ne h
    · exact ih h

/-- The amounts of a price fail for reasons that are not the formula's. -/
lemma amounts_ne {isExpress : Bool} : amounts t x n isExpress ≠ .error (.formula cause) := by
  intro h
  simp only [amounts, bind_eq_error] at h
  rcases h with h | ⟨_, -, h⟩
  · exact ofFault_ne h
  · split_ifs at h <;> simp at h

/-- What follows the value of the formula fails for reasons that are not the formula's. -/
lemma ofUnitPrice_ne {formula : String} :
    ofUnitPrice settings t formula r n x ≠ .error (.formula cause) := by
  intro h
  rw [ofUnitPrice] at h
  rcases bind_eq_error.1 h with h | ⟨a, -, h⟩
  · exact amounts_ne h
  rcases bind_eq_error.1 h with h | ⟨breakdown, -, h⟩
  · exact ofFault_ne h
  rcases bind_eq_error.1 h with h | ⟨count, -, h⟩
  · exact ofFault_ne h
  rcases bind_eq_error.1 h with h | ⟨formatted, -, h⟩
  · exact ofFault_ne h
  · simp at h

/-- If an error of its formula keeps a quote from being made, the error is numeric.

**Proof sketch.** Only the check and the evaluation look at the formula, and what the check finds is
not reported as an error of the formula. The evaluation comes after the check. -/
theorem isNumeric_of_make {template : Option Template}
    (h : make settings template r = .error (.formula cause)) : cause.isNumeric = true := by
  cases template with
  | none => simp [make] at h
  | some t =>
    rw [make_eq] at h
    by_cases hactive : t.isActive = false
    · rw [if_pos hactive] at h
      simp at h
    rw [if_neg hactive] at h
    split at h
    · next failure hmissing =>
      obtain rfl := Except.error.inj h
      simp [missingField?] at hmissing
    rcases bind_eq_error.1 h with h | ⟨n, -, h⟩
    · exact absurd h acceptQuantity_ne
    by_cases hfit : (check settings.limits t.formula t.variableKeys).isValid = false
    · rw [if_pos hfit] at h
      simp at h
    rw [if_neg hfit, afterCheck] at h
    rcases bind_eq_error.1 h with h | ⟨values, hvalues, h⟩
    · exact absurd h bindFields_ne
    rcases bind_eq_error.1 h with h | ⟨known, hknown, h⟩
    · exact absurd h ofFault_ne
    rcases bind_eq_error.1 h with h | ⟨x, -, h⟩
    · have hbound := bound_of_bindings (mapError_eq_ok.1 hknown)
      rcases isNumeric_of_price (by simpa using hfit)
        (fun name hname =>
          hbound.exists_numberOf (hname.imp id (Template.mem_keys_bind hvalues).2)) h with
        ⟨cause', hcause, hnumeric⟩ | ⟨hfault, -⟩
      · obtain rfl : cause = cause' := by simpa using hcause
        exact hnumeric
      · cases hfault
    · exact absurd h ofUnitPrice_ne

end Quote

end Tariff
