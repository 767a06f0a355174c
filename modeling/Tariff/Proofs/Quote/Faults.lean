import Tariff.Proofs.Money.Rounding
import Tariff.Proofs.Overflow
import Tariff.Proofs.Quote.Choices
import Tariff.Proofs.Quote.Stages
import Tariff.Template.Entry

/-!
# Which requests end in a fault

A request that has no quote fails for a reason of its own, or in a fault. A fault comes from
something in excess: a whole number beyond the doubles, which is the quantity or is submitted for a
field; a value that would have to be quoted or compared in writing, and has too many digits or too
many lists inside of each other for that; or a formula whose calls are nested more deeply than there
is room for. Of a request with any of them no quote is made.

## Main definitions

* `Tariff.Field.Excess` — what is in excess in a value that is submitted for a field.
* `Tariff.Quote.Unquotable` — a quantity is turned away for a reason that cannot be written.
* `Tariff.Quote.Excess` — what is in excess in a request, or in the template for it.

## Main results

* `Tariff.Money.exists_display` — a finite amount can be displayed.
* `Tariff.Field.excess_of_interpret`, `Tariff.Quote.acceptQuantity_eq_fault_iff`,
  `Tariff.Quote.fault_of_ofUnitPrice` — the faults of the stages.
* `Tariff.Quote.excess_of_make` — where a fault comes from.
* `Tariff.Quote.not_made_of_excess` — no quote is made where something is in excess.
* `Tariff.Quote.faults_of_oversized` — which requests end in a fault.
-/

set_option autoImplicit false

namespace Tariff

open Tariff.Money Tariff.Number

/-! ### Amounts on display -/

namespace Money

variable {x : Float}

/-- A finite amount can be displayed. -/
lemma exists_display (h : x.isFinite = true) (currency : String) (suffix : Option String) :
    ∃ text, display x currency suffix = .ok text := by
  obtain ⟨i, hi⟩ := exists_truncation? (isFinite_roundWith isNumber_one le_rfl h)
  have htext : ∃ text, amountText x currency = .ok text := by
    rw [amountText, wholeAmount, hi]
    split <;> exact ⟨_, rfl⟩
  obtain ⟨text, htext⟩ := htext
  exact ⟨_, bind_eq_ok.2 ⟨text, htext, rfl⟩⟩

end Money

/-! ### Values of fields -/

variable {v : Value} {n : Int} {cause : Fault} {α : Type}

/-- A fault of data is reported as it is. -/
lemma ofFault_eq_fault_iff {c : Except Fault α} :
    Failure.ofFault c = .error (.fault cause) ↔ c = .error cause := by
  rw [Failure.ofFault, mapError_eq_error]
  simp

namespace Field

variable {f : Field} {value : FieldValue}

/-- What is in excess in a value that is submitted for a field, with the fault in which the reading
of the value ends. -/
inductive Excess (f : Field) (v : Value) : Fault → Prop where
  /-- a whole number beyond the doubles -/
  | oversized (h : IsOversized v) : Excess f v .tooLarge
  /-- a choice that cannot be written, and so names no option -/
  | entry {vs : List Value} {u : Value} {cause : Fault} (hoptions : f.type.hasOptions = true)
    (hv : choices v = .ok vs) (hu : u ∈ vs) (h : u.shown = .error cause) : Excess f v cause
  /-- a list or an object for a field without options, which is quoted and cannot be written -/
  | literal {cause : Fault} (hoptions : f.type.hasOptions = false)
    (hkind : v.kind ∈ [.list, .object]) (h : v.literal = .error cause) : Excess f v cause

/-- Of the whole numbers only those beyond the doubles are in excess. -/
lemma Excess.of_int (h : f.Excess (.int n) cause) : ofInt? n = none ∧ cause = .tooLarge := by
  cases h with
  | oversized h =>
    obtain ⟨_, ⟨⟩, hsize⟩ := h
    exact ⟨hsize, rfl⟩
  | entry _ hv => cases hv
  | literal _ hkind => simp [Value.kind] at hkind

/-- What is in excess does not count as left out. -/
lemma Excess.isBlank_eq (h : f.Excess v cause) : v.isBlank = false := by
  cases v with
  | null =>
    rcases h with ⟨_, ⟨⟩, -⟩ | ⟨-, hv, -, -⟩ | ⟨-, hkind, -⟩
    · cases hv
    · simp [Value.kind] at hkind
  | text s =>
    rcases h with ⟨_, ⟨⟩, -⟩ | ⟨-, hv, hu, hshown⟩ | ⟨-, hkind, -⟩
    · obtain rfl := Except.ok.inj hv
      obtain rfl := List.mem_singleton.1 hu
      cases hshown
    · simp [Value.kind] at hkind
  | _ => rfl

/-- Choices end in a fault only if one of them cannot be written. -/
lemma excess_of_choices {vs : List Value} (hoptions : f.type.hasOptions = true)
    (hv : choices v = .ok vs) (h : f.interpret v = .error (.fault cause)) : f.Excess v cause := by
  obtain ⟨before, u, after, rfl, -, hturned⟩ := (interpret_eq_error_iff hoptions hv).1 h
  cases hturned with
  | unwritten hu => exact .entry hoptions hv (by simp) hu

/-- **Reading a value for a field ends in a fault** only if something in it is in excess, or for
null. -/
lemma excess_of_interpret (hv : v ≠ .null) (h : f.interpret v = .error (.fault cause)) :
    f.Excess v cause := by
  cases v with
  | null => exact absurd rfl hv
  | bool b =>
    rw [interpret] at h
    split at h <;> simp at h
  | int n =>
    rw [interpret, ofFault_eq_fault_iff, map_eq_error, toFloat_int_eq_error_iff] at h
    obtain ⟨hsize, rfl⟩ := h
    exact .oversized ⟨n, rfl, hsize⟩
  | float x =>
    rw [interpret, ofFault_eq_fault_iff, map_eq_error] at h
    simp [Value.toFloat] at h
  | text s =>
    by_cases hoptions : f.type.hasOptions = true
    · exact excess_of_choices hoptions rfl h
    simp only [interpret, if_neg hoptions] at h
    split at h <;> simp at h
  | list items =>
    by_cases hoptions : f.type.hasOptions = true
    · exact excess_of_choices hoptions rfl h
    simp only [interpret, if_neg hoptions] at h
    rcases bind_eq_error.1 h with h | ⟨_, -, h⟩
    · exact .literal (by simpa using hoptions) (by simp [Value.kind]) (ofFault_eq_fault_iff.1 h)
    · cases h
  | object members =>
    by_cases hoptions : f.type.hasOptions = true
    · exact excess_of_choices hoptions rfl h
    simp only [interpret, if_neg hoptions] at h
    rcases bind_eq_error.1 h with h | ⟨_, -, h⟩
    · exact .literal (by simpa using hoptions) (by simp [Value.kind]) (ofFault_eq_fault_iff.1 h)
    · cases h

/-- A whole number beyond the doubles is read for no field. -/
lemma interpret_of_oversized (h : ofInt? n = none) :
    f.interpret (.int n) = .error (.fault .tooLarge) := by
  rw [interpret, ofFault_eq_fault_iff, map_eq_error]
  exact toFloat_int_eq_error_iff.2 ⟨h, rfl⟩

/-- A value in which something is in excess is read for no field. -/
lemma Excess.interpret_ne (h : f.Excess v cause) : f.interpret v ≠ .ok value := by
  intro hread
  cases h with
  | oversized h =>
    obtain ⟨n, rfl, hsize⟩ := h
    cases (interpret_of_oversized hsize).symm.trans hread
  | entry hoptions hv hu h =>
    obtain ⟨_, _, -, hos, -⟩ := (interpret_eq_ok_iff hoptions hv).1 hread
    obtain ⟨o, -, hname⟩ := hos.exists_of_mem hu
    cases h.symm.trans hname.shown_eq
  | literal hoptions hkind h =>
    cases v with
    | list | object => simp [interpret, hoptions, bind_eq_ok] at hread
    | _ => simp [Value.kind] at hkind

/-- A null is never read for a field that has a quantity to take its place. -/
lemma submittedOr_ne_null : f.submittedOr v (.int n) ≠ .null := by
  rw [submittedOr]
  split
  · split <;> simp
  · next hblank =>
    rintro rfl
    exact hblank rfl

/-- Something is in excess in what is read for a field only if it is in what is submitted, or if the
quantity is beyond the doubles. -/
lemma excess_of_submittedOr (h : f.Excess (f.submittedOr v (.int n)) cause) :
    f.Excess v cause ∨ IsOversized (.int n) ∧ cause = .tooLarge := by
  rw [submittedOr] at h
  split at h
  · split at h
    · obtain ⟨hsize, hcause⟩ := h.of_int
      exact .inr ⟨⟨n, rfl, hsize⟩, hcause⟩
    · exact absurd ⟨0, rfl, h.of_int.1⟩ not_isOversized_zero
  · exact .inl h

end Field

section

variable {values : List (String × Value)} {bound result : List (String × Float)}
  {fields : List Field}

/-- Reading the values of fields ends in a fault only if something is in excess in one that is
submitted for them, or if the quantity is beyond the doubles. -/
lemma excess_of_bindFields (h : bindFields values (.int n) bound fields = .error (.fault cause)) :
    (∃ f ∈ fields, f.Excess (submitted values f.key) cause) ∨
      IsOversized (.int n) ∧ cause = .tooLarge := by
  induction fields generalizing bound with
  | nil => simp [bindFields] at h
  | cons f fields ih =>
    rw [bindFields] at h
    rcases bind_eq_error.1 h with h | ⟨v, -, h⟩
    · have hexcess := Field.excess_of_interpret Field.submittedOr_ne_null h
      refine (Field.excess_of_submittedOr hexcess).imp_left fun hexcess => ?_
      exact ⟨f, List.mem_cons_self, hexcess⟩
    · refine (ih h).imp_left ?_
      rintro ⟨g, hg, hexcess⟩
      exact ⟨g, List.mem_cons_of_mem _ hg, hexcess⟩

/-- Where the values of fields are read, nothing is in excess in those that are submitted for
them. -/
lemma not_excess_of_bindFields {quantity : Value}
    (h : bindFields values quantity bound fields = .ok result) :
    ∀ f ∈ fields, ∀ cause, ¬f.Excess (submitted values f.key) cause := by
  induction fields generalizing bound with
  | nil => simp
  | cons f fields ih =>
    rw [bindFields] at h
    obtain ⟨v, hv, h⟩ := bind_eq_ok.1 h
    rw [List.forall_mem_cons]
    refine ⟨fun cause hexcess => ?_, ih h⟩
    rw [Field.submittedOr, hexcess.isBlank_eq] at hv
    exact hexcess.interpret_ne hv

end

/-! ### Quotes -/

namespace Quote

variable {settings : Settings} {t : Template} {r : Request} {q : Quote} {x : Float}

/-- A quantity is turned away, and what has to be quoted for that cannot be written. -/
inductive Unquotable (t : Template) (quantity : Value) : Fault → Prop where
  /-- the quantity, which is no whole number from one on -/
  | quantity {cause : Fault} (hbad : ∀ n, quantity = .int n → n < 1)
    (h : quantity.literal = .error cause) : Unquotable t quantity cause
  /-- the least quantity, for which the merchant has no wording -/
  | minimum {n least : Int} (hn : quantity = .int n) (hone : 1 ≤ n)
    (hleast : t.minQuantity = some least) (hless : n < least)
    (hwording : t.minQuantityMessage.all (·.isEmpty) = true) (h : isWritable least = false) :
    Unquotable t quantity .integerUnwritable
  /-- the greatest quantity, for which the merchant has no wording -/
  | maximum {n most : Int} (hn : quantity = .int n) (hone : 1 ≤ n)
    (hleast : ∀ least, t.minQuantity = some least → least ≤ n) (hmost : t.maxQuantity = some most)
    (hgreater : most < n) (hwording : t.maxQuantityMessage.all (·.isEmpty) = true)
    (h : isWritable most = false) : Unquotable t quantity .integerUnwritable

/-- What is in excess in a request, or in the template for it, with the fault in which making a
quote ends if nothing else is wrong. -/
inductive Excess (settings : Settings) (t : Template) (r : Request) : Fault → Prop where
  /-- the quantity is beyond the doubles -/
  | quantity (h : IsOversized r.quantity) : Excess settings t r .tooLarge
  /-- something is in excess in a value for a field that the formula may use -/
  | field {f : Field} {cause : Fault} (hf : f ∈ t.variableFields)
    (h : f.Excess (submitted r.values f.key) cause) : Excess settings t r cause
  /-- the quantity is turned away for a reason that cannot be written -/
  | unquotable {cause : Fault} (h : Unquotable t r.quantity cause) : Excess settings t r cause
  /-- the calls of the formula are nested more deeply than there is room for -/
  | calls {tree : Formula.Tree} (htree : Formula.parse settings.limits t.formula = .ok tree)
    (h : settings.callLimit < tree.calls) : Excess settings t r .callsExhausted

/-- A quantity is quoted if it can be written. -/
lemma quoted_eq_fault_iff {quoted : Except Fault String} :
    (Failure.ofFault quoted >>= fun s => .error (.badQuantity s) : Except Failure Int) =
      .error (.fault cause) ↔ quoted = .error cause := by
  rw [bind_eq_error, ofFault_eq_fault_iff, or_iff_left]
  rintro ⟨_, -, h⟩
  cases h

/-- A limit is quoted if it can be written, unless the merchant has a wording. -/
lemma turnedAway_eq_fault_iff {wording : Option String} {failure : Failure}
    (hfailure : failure ≠ .fault cause) : turnedAway n wording failure = .fault cause ↔
      wording.all (·.isEmpty) = true ∧ isWritable n = false ∧ cause = .integerUnwritable := by
  rw [turnedAway]
  split
  · next h =>
    rw [Bool.and_eq_true, Bool.not_eq_true'] at h
    simp [h, eq_comm]
  · next h =>
    rw [Bool.and_eq_true, Bool.not_eq_true'] at h
    exact iff_of_false hfailure fun h' => h ⟨h'.1, h'.2.1⟩

/-- **Turning a quantity away ends in a fault** iff what has to be quoted for that cannot be
written. -/
lemma acceptQuantity_eq_fault_iff :
    acceptQuantity t v = .error (.fault cause) ↔ Unquotable t v cause := by
  cases v with
  | int n =>
    rw [acceptQuantity]
    split_ifs with hless
    · rw [quoted_eq_fault_iff]
      refine ⟨.quantity fun _ hn => Value.int.inj hn ▸ hless, ?_⟩
      rintro (⟨-, h⟩ | ⟨⟨⟩, hone⟩ | ⟨⟨⟩, hone⟩)
      · exact h
      · omega
      · omega
    have hone : 1 ≤ n := by omega
    split
    · next least hmin =>
      rw [Option.filter_eq_some_iff, decide_eq_true_eq] at hmin
      rw [Except.error.injEq, turnedAway_eq_fault_iff (by simp)]
      constructor
      · rintro ⟨hwording, h, rfl⟩
        exact .minimum rfl hone hmin.1 hmin.2 hwording h
      · rintro (⟨hbad, -⟩ | ⟨⟨⟩, -, hleast, -, hwording, h⟩ | ⟨⟨⟩, -, hleast, -⟩)
        · exact absurd (hbad n rfl) hless
        · obtain rfl := Option.some.inj (hmin.1.symm.trans hleast)
          exact ⟨hwording, h, rfl⟩
        · have := hleast _ hmin.1
          omega
    next hmin =>
    rw [Option.filter_eq_none_iff] at hmin
    split
    · next most hmax =>
      rw [Option.filter_eq_some_iff, decide_eq_true_eq] at hmax
      rw [Except.error.injEq, turnedAway_eq_fault_iff (by simp)]
      constructor
      · rintro ⟨hwording, h, rfl⟩
        exact .maximum rfl hone (fun least hl => by simpa using hmin least hl) hmax.1 hmax.2
          hwording h
      · rintro (⟨hbad, -⟩ | ⟨⟨⟩, -, hleast, hless', -⟩ | ⟨⟨⟩, -, -, hmost, -, hwording, h⟩)
        · exact absurd (hbad n rfl) hless
        · exact absurd (decide_eq_true hless') (hmin _ hleast)
        · obtain rfl := Option.some.inj (hmax.1.symm.trans hmost)
          exact ⟨hwording, h, rfl⟩
    · next hmax =>
      rw [Option.filter_eq_none_iff] at hmax
      refine iff_of_false (by simp) ?_
      rintro (⟨hbad, -⟩ | ⟨⟨⟩, -, hleast, hless', -⟩ | ⟨⟨⟩, -, -, hmost, hgreater, -⟩)
      · exact absurd (hbad n rfl) hless
      · exact absurd (decide_eq_true hless') (hmin _ hleast)
      · exact absurd (decide_eq_true hgreater) (hmax _ hmost)
  | _ =>
    rw [acceptQuantity, quoted_eq_fault_iff]
    · refine ⟨.quantity (by rintro _ ⟨⟩), ?_⟩
      rintro (⟨-, h⟩ | ⟨⟨⟩, -⟩ | ⟨⟨⟩, -⟩)
      exact h
    · rintro _ ⟨⟩

/-- What follows the value of the formula ends in a fault only if the quantity is beyond the
doubles. A price that is finite can be displayed. -/
lemma fault_of_ofUnitPrice {formula : String}
    (h : ofUnitPrice settings t formula r n x = .error (.fault cause)) :
    ofInt? n = none ∧ cause = .tooLarge := by
  rw [ofUnitPrice] at h
  rcases bind_eq_error.1 h with h | ⟨a, ha, h⟩
  · simp only [amounts, bind_eq_error] at h
    rcases h with h | ⟨_, -, h⟩
    · rwa [ofFault_eq_fault_iff, toFloat_int_eq_error_iff] at h
    · split_ifs at h <;> simp at h
  rcases bind_eq_error.1 h with h | ⟨breakdown, -, h⟩
  · rw [ofFault_eq_fault_iff, Breakdown.lines] at h
    rcases bind_eq_error.1 h with h | ⟨_, -, h⟩
    · rwa [toFloat_int_eq_error_iff] at h
    · simp at h
  rcases bind_eq_error.1 h with h | ⟨count, -, h⟩
  · rwa [ofFault_eq_fault_iff, toFloat_int_eq_error_iff] at h
  rcases bind_eq_error.1 h with h | ⟨formatted, -, h⟩
  · obtain ⟨-, -, -, -, hfinite⟩ := amounts_eq_ok_iff.1 ha
    obtain ⟨text, htext⟩ := exists_display hfinite settings.currency (some settings.currencySuffix)
    rw [ofFault_eq_fault_iff, htext] at h
    simp at h
  · simp at h

/-- **Where a fault comes from.** Only something in excess, in the request or in the template for
it, leads to one.

**Proof sketch.** The stages of a quote are gone through (`make_eq`). The checks of the template, of
the required fields and of the formula fail for reasons of their own, and the evaluation of the
formula fails for such a reason or for want of room (`isNumeric_of_price`). -/
lemma excess_of_make (h : make settings (some t) r = .error (.fault cause)) :
    Excess settings t r cause := by
  rw [make_eq] at h
  by_cases hactive : t.isActive = false
  · rw [if_pos hactive] at h
    simp at h
  rw [if_neg hactive] at h
  split at h
  · next failure hmissing =>
    obtain rfl := Except.error.inj h
    simp [missingField?] at hmissing
  rcases bind_eq_error.1 h with h | ⟨n, hn, h⟩
  · exact .unquotable (acceptQuantity_eq_fault_iff.1 h)
  have hquantity := (acceptQuantity_eq_ok_iff.1 hn).1
  have hoversized : ofInt? n = none → cause = .tooLarge → Excess settings t r cause := by
    rintro hsize rfl
    exact .quantity ⟨n, hquantity, hsize⟩
  by_cases hfit : (Formula.check settings.limits t.formula t.variableKeys).isValid = false
  · rw [if_pos hfit] at h
    simp at h
  rw [if_neg hfit, afterCheck] at h
  rcases bind_eq_error.1 h with h | ⟨values, hvalues, h⟩
  · rcases excess_of_bindFields h with ⟨f, hf, hexcess⟩ | ⟨⟨_, ⟨⟩, hsize⟩, hcause⟩
    · exact .field hf hexcess
    · exact hoversized hsize hcause
  rcases bind_eq_error.1 h with h | ⟨known, hknown, h⟩
  · obtain ⟨hsize, hcause⟩ := eq_tooLarge_of_bindings (ofFault_eq_fault_iff.1 h)
    exact hoversized hsize hcause
  rcases bind_eq_error.1 h with h | ⟨x, -, h⟩
  · have hbound := bound_of_bindings (mapError_eq_ok.1 hknown)
    rcases isNumeric_of_price (by simpa using hfit)
      (fun name hname => hbound.exists_numberOf (hname.imp id (Template.mem_keys_bind hvalues).2)) h
      with ⟨_, hformula, -⟩ | ⟨hfault, tree, htree, hshort⟩
    · cases hformula
    · obtain rfl := Failure.fault.inj hfault
      exact .calls htree hshort
  · obtain ⟨hsize, hcause⟩ := fault_of_ofUnitPrice h
    exact hoversized hsize hcause

/-- **No quote is made where something is in excess.**

**Proof sketch.** A quote that is made has a quantity with a count, values that were read, and a
formula with a value (`make_eq_ok_iff`), for which there was room (`takesRoom_value`). -/
lemma not_made_of_excess (h : Excess settings t r cause) : make settings (some t) r ≠ .ok q := by
  intro hmade
  obtain ⟨n, known, x, hmade, hq⟩ := make_eq_ok_iff.1 hmade
  have hquantity := (acceptQuantity_eq_ok_iff.1 hmade.accepted).1
  cases h with
  | quantity h =>
    obtain ⟨n', hn', hsize⟩ := h
    obtain rfl : n = n' := Value.int.inj (hquantity.symm.trans hn')
    obtain ⟨count, -, -, hcount, -⟩ := ofUnitPrice_eq_ok_iff.1 hq
    simp [hsize] at hcount
  | field hf h =>
    obtain ⟨values, hvalues, -⟩ := bind_eq_ok.1 hmade.context_eq
    exact not_excess_of_bindFields hvalues _ hf _ h
  | unquotable h => cases (acceptQuantity_eq_fault_iff.2 h).symm.trans hmade.accepted
  | calls htree hshort =>
    have henough := (Formula.takesRoom_value known htree).le_of_eq_ok hmade.value_eq
    omega

/-- A quantity beyond the doubles cannot be bound, unless a field has its name. -/
lemma bindings_of_oversized {values : Formula.Bindings} {base : Float} (hsize : ofInt? n = none)
    (hname : "quantity" ∉ values.map (·.1)) :
    bindings values (.float base) (.int n) = .error .tooLarge := by
  have hnone : lookup? "quantity" values = none := by
    rwa [← isSome_lookup?_iff, Bool.not_eq_true, Option.isSome_eq_false_iff,
      Option.isNone_iff_eq_none] at hname
  simp [bindings, hnone, hsize, Value.toFloat, bind, Except.bind]

/-- The bindings of the formula end in a fault if a field does, or if the quantity is beyond the
doubles and no field has its name. -/
lemma context_of_fault
    (h : t.bind r.values (.int n) = .error (.fault cause) ∨
      ofInt? n = none ∧ cause = .tooLarge ∧ "quantity" ∉ t.variableKeys ∧
        ∃ values, t.bind r.values (.int n) = .ok values) :
    context t r n = .error (.fault cause) := by
  rcases h with hfault | ⟨hsize, rfl, hname, values, hvalues⟩
  · exact bind_eq_error.2 (.inl hfault)
  have hunbound : "quantity" ∉ (values.map fun v => (v.1, Value.float v.2)).map (·.1) := by
    rw [List.map_map]
    exact fun hmem => hname ((Template.mem_keys_bind hvalues).1 hmem)
  refine bind_eq_error.2 (.inr ⟨values, hvalues, ?_⟩)
  exact ofFault_eq_fault_iff.2 (bindings_of_oversized hsize hunbound)

/-- A quantity that is turned away ends the request as it does. -/
lemma make_of_turnedAway {failure : Failure} (hactive : t.isActive = true)
    (hcomplete : missingField? t.fields r.values = none)
    (h : acceptQuantity t r.quantity = .error failure) :
    make settings (some t) r = .error failure := by
  rw [make_eq, if_neg (by simp [hactive]), hcomplete]
  exact bind_eq_error.2 (.inl h)

/-- After a quantity that is accepted and a formula that is fit, a quote ends as what follows the
check does. -/
lemma make_of_fit (hactive : t.isActive = true) (hcomplete : missingField? t.fields r.values = none)
    (haccepted : acceptQuantity t r.quantity = .ok n)
    (hfit : (Formula.check settings.limits t.formula t.variableKeys).isValid = true) :
    make settings (some t) r = context t r n >>= fun known =>
      Formula.price settings.limits settings.callLimit t.formula known >>= fun x =>
        ofUnitPrice settings t (t.formula.getD "") r n x := by
  rw [make_eq, if_neg (by simp [hactive]), hcomplete]
  change acceptQuantity t r.quantity >>= _ = _
  rw [haccepted]
  change (if _ then _ else _) = _
  rw [if_neg (by simp [hfit]), afterCheck_eq]

/-- **Which requests end in a fault.** A request that has no quote fails for a reason of its own,
unless something is in excess in it or in the template for it, and no quote is made where something
is. The request ends in the fault if nothing is wrong before that comes up: where the quantity is
turned away, where the values of the fields and the quantity are bound, and where a formula that has
a price with more room is evaluated.

**Proof sketch.** Where a fault comes from is `excess_of_make`, and what is in excess keeps a quote
from being made (`not_made_of_excess`). After the check a quote ends as its bindings and its formula
do (`make_of_fit`), and a formula that has a price fails for want of room if there is less than its
calls take (`takesRoom_value`). -/
theorem faults_of_oversized (settings : Settings) (template : Option Template) (r : Request) :
    ((∃ q, make settings template r = .ok q) ∨
      ∃ failure, make settings template r = .error failure ∧ ∀ cause, failure = .fault cause →
        ∃ t, template = some t ∧ Excess settings t r cause) ∧
    (∀ t cause, template = some t → Excess settings t r cause →
      ∀ q, make settings template r ≠ .ok q) ∧
    (∀ t cause, template = some t → t.isActive = true → missingField? t.fields r.values = none →
      Unquotable t r.quantity cause → make settings template r = .error (.fault cause)) ∧
    (∀ t n cause, template = some t → t.isActive = true →
      missingField? t.fields r.values = none → acceptQuantity t r.quantity = .ok n →
      (Formula.check settings.limits t.formula t.variableKeys).isValid = true →
      t.bind r.values (.int n) = .error (.fault cause) ∨
        ofInt? n = none ∧ cause = .tooLarge ∧ "quantity" ∉ t.variableKeys ∧
          (∃ values, t.bind r.values (.int n) = .ok values) →
      make settings template r = .error (.fault cause)) ∧
    (∀ t n known tree room x, template = some t → t.isActive = true →
      missingField? t.fields r.values = none → acceptQuantity t r.quantity = .ok n →
      (Formula.check settings.limits t.formula t.variableKeys).isValid = true →
      context t r n = .ok known → Formula.parse settings.limits t.formula = .ok tree →
      settings.callLimit < tree.calls →
      Formula.price settings.limits room t.formula known = .ok x →
      make settings template r = .error (.fault .callsExhausted)) := by
  refine ⟨?_, ?_, ?_, ?_, ?_⟩
  · cases hmade : make settings template r with
    | ok q => exact .inl ⟨q, rfl⟩
    | error failure =>
      refine .inr ⟨failure, rfl, ?_⟩
      rintro cause rfl
      cases template with
      | none => simp [make] at hmade
      | some t => exact ⟨t, rfl, excess_of_make hmade⟩
  · rintro t cause rfl h q
    exact not_made_of_excess h
  · rintro t cause rfl hactive hcomplete h
    exact make_of_turnedAway hactive hcomplete (acceptQuantity_eq_fault_iff.2 h)
  · rintro t n cause rfl hactive hcomplete haccepted hfit h
    rw [make_of_fit hactive hcomplete haccepted hfit, context_of_fault h]
    rfl
  · rintro t n known tree room x rfl hactive hcomplete haccepted hfit hknown htree hshort hprice
    obtain ⟨y, hy, -⟩ := map_eq_ok.1 hprice
    have hexhausted := (Formula.takesRoom_value known htree).eq_exhausted hy hshort
    rw [make_of_fit hactive hcomplete haccepted hfit, hknown]
    exact bind_eq_error.2
      (.inr ⟨known, rfl, bind_eq_error.2 (.inl (map_eq_error.2 hexhausted))⟩)

/-- A whole number beyond the doubles. -/
def huge : Int :=
  Int.ofNat (tenPow 400)

/-- The number is beyond the doubles. -/
lemma ofInt?_huge : ofInt? huge = none := by
  decide +kernel

/-- A number beyond the doubles that is submitted for a field ends in a fault. -/
theorem faults_of_oversized_field :
    make (Settings.standard "") (some oneField) ⟨[("x", .int huge)], .int 1, 1000.0, false⟩ =
      .error (.fault .tooLarge) := by
  have hfit : (Formula.check (Settings.standard "").limits oneField.formula
      oneField.variableKeys).isValid = true := by
    rw [Template.variableKeys, variableFields_oneField]
    rfl
  have hfault : oneField.bind [("x", .int huge)] (.int 1) = .error (.fault .tooLarge) := by
    rw [Template.bind, variableFields_oneField]
    exact bind_eq_error.2 (.inl (Field.interpret_of_oversized ofInt?_huge))
  exact (faults_of_oversized (Settings.standard "") (some oneField) _).2.2.2.1 oneField 1 _ rfl rfl
    rfl rfl hfit (.inl hfault)

/-- A template without fields, under which one piece costs its base price. -/
def noField : Template :=
  { oneField with name := "t", fields := [], formula := some "base_price" }

/-- A quantity that is accepted and beyond the doubles ends in a fault. -/
theorem make_fault_of_quantity :
    Template.ofValue (.object [("id", .text "t"), ("pricingFormula", .text "base_price")]) =
      .ok noField ∧
    acceptQuantity noField (.int huge) = .ok huge ∧
      make (Settings.standard "") (some noField) ⟨[], .int huge, 1000.0, false⟩ =
        .error (.fault .tooLarge) := by
  have haccepted : acceptQuantity noField (.int huge) = .ok huge :=
    acceptQuantity_eq_ok_iff.2 ⟨rfl, by decide +kernel, by rintro _ ⟨⟩, by rintro _ ⟨⟩⟩
  have hvariables : noField.variableFields = [] := by
    simp [noField, Template.variableFields, Field.inDisplayOrder]
  have hfit : (Formula.check (Settings.standard "").limits noField.formula
      noField.variableKeys).isValid = true := by
    rw [Template.variableKeys, hvariables]
    decide +kernel
  have hfault : context noField ⟨[], .int huge, 1000.0, false⟩ huge =
      .error (.fault .tooLarge) := by
    refine context_of_fault (.inr ⟨ofInt?_huge, rfl, ?_, [], ?_⟩)
    · rw [Template.variableKeys, hvariables]
      exact List.not_mem_nil
    · rw [Template.bind, hvariables]
      rfl
  refine ⟨rfl, haccepted, ?_⟩
  rw [make_of_fit rfl rfl haccepted hfit, hfault]
  rfl

end Quote

end Tariff
