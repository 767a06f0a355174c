import Tariff.Proofs.Catalog
import Tariff.Proofs.Formula.Exactness
import Tariff.Proofs.Formula.Layout
import Tariff.Proofs.Formula.Spelling
import Tariff.Proofs.Number.Order
import Tariff.Proofs.Quote.Inputs
import Tariff.Proofs.Quote.Stages

/-!
# What the names of a formula mean

A formula that is a single name has the number under that name as its value, unless the name is one
of the words with a meaning of their own. Among the bindings of a quote each key of a template that
passes the check stands for the value of its own field, and `base_price` for the base price unless
it is the key of a field.

## Main results

* `Tariff.Formula.parse_of_isName` — a name is read as what it means.
* `Tariff.isName_of_isFieldKey` — a key of a field is a name.
* `Tariff.exists_interpret_of_bindFields` — the number of a field is found under its key.
* `Tariff.Quote.names_mean` — what the names mean in a quote.
-/

set_option autoImplicit false

namespace Tariff

open Tariff.Money Tariff.Number Tariff.Text

namespace Formula

/-! ### Formulas of one name -/

variable {s : String} {limits : Limits} {room : Nat} {known : Bindings} {x : Float}

/-- A name holds no blank. -/
lemma IsName.isBlank_eq (h : IsName s) {c : Char} (hc : c ∈ s.toList) : isBlank c = false := by
  by_contra hblank
  have hchar := isNameChar_eq_false_of_isBlank (by simpa using hblank)
  simp [h.chars c hc] at hchar

/-- A name is cut into one token. -/
lemma IsName.tokens_eq (h : IsName s) : tokens s.toList = .ok [⟨.name s, 0⟩] :=
  Lexeme.IsSpelled.tokensFrom_text (l := .name s) h 0

/-- **A name is read as what it means**, if the limits permit it. -/
theorem parse_of_isName (h : IsName s) (hdepth : 1 ≤ limits.depth)
    (hlength : ∀ limit, limits.length = some limit → (s.length : Int) ≤ limit) :
    parse limits (some s) = .ok (Descent.meaning s) := by
  obtain ⟨c, cs, hs, -⟩ := h.exists_cons
  have hline : oneLineChars s = s.toList := oneLineChars_eq_toList fun c hc => h.isBlank_eq hc
  have hblank : isBlankText s = false := by
    rw [isBlankText, hs, List.all_cons, h.isBlank_eq (by simp [hs]), Bool.false_and]
  have hderives : Derives .conditional [.name s] (.word s) :=
    (Derives.word s).of_primary _
  rw [parse_eq_ok_iff_derives, hline, String.length_toList]
  exact ⟨hblank, hlength, _, .word s, h.tokens_eq, hderives, trivial, by simpa [Phrase.depth],
    rfl⟩

/-- A name without a meaning of its own stands for what is bound under it. -/
lemma meaning_of_isLiteralName (h : isLiteralName s = false) :
    Descent.meaning s = .named s := by
  simp only [isLiteralName, List.contains_eq_mem, List.mem_cons, List.not_mem_nil, or_false,
    decide_eq_false_iff_not, not_or] at h
  obtain ⟨htrue, hfalse, hnull, hundefined⟩ := h
  unfold Descent.meaning
  split <;> simp_all

/-- A name with a meaning of its own has it whatever is bound. -/
lemma eval_meaning_of_isLiteralName (h : isLiteralName s = true) (known others : Bindings) :
    (Descent.meaning s).eval known room = (Descent.meaning s).eval others room := by
  simp only [isLiteralName, List.contains_eq_mem, List.mem_cons, List.not_mem_nil, or_false,
    decide_eq_true_eq] at h
  unfold Descent.meaning
  rcases h with h | h | h | h <;> rw [h] <;> rfl

/-- A finite number is the result of a formula. -/
lemma finiteResult_of_isFinite (h : x.isFinite = true) : finiteResult (some x) = .ok x := by
  have hinf : x.isInf = false := by
    change x.toModel.unpack.isInf = false
    have hfinite : x.toModel.unpack.isFinite = true := h
    match x.toModel.unpack, hfinite with
    | .zero _, _ | .finite .., _ => rfl
  rw [finiteResult, isNaN_eq_false_of_isFinite h, hinf]
  rfl

/-- The price of a formula of one name is the number under the name, rounded to cents. -/
lemma price_of_isName (h : IsName s) (hliteral : isLiteralName s = false)
    (hdepth : 1 ≤ limits.depth) (hroom : callsToBinding ≤ room)
    (hlength : ∀ limit, limits.length = some limit → (s.length : Int) ≤ limit)
    (hx : lookup? s known = some (.float x)) (hfinite : x.isFinite = true) :
    price limits room (some s) known = .ok (toCents x) := by
  have heval : (Tree.named s).eval known room = .ok (some x) := by
    rw [Tree.eval, inside_eq_ok_iff.2 ⟨hroom, rfl⟩, numberOf, hx]
    rfl
  rw [price, value, parse_of_isName h hdepth hlength, meaning_of_isLiteralName hliteral]
  simp only [Except.mapError, bind, Except.bind, heval, finiteResult_of_isFinite hfinite,
    Except.map]

/-- The price of a formula of one name with a meaning of its own does not depend on what is
bound. -/
lemma price_of_isLiteralName (h : IsName s) (hliteral : isLiteralName s = true)
    (hdepth : 1 ≤ limits.depth)
    (hlength : ∀ limit, limits.length = some limit → (s.length : Int) ≤ limit)
    (known others : Bindings) :
    price limits room (some s) known = price limits room (some s) others := by
  rw [price, price, value, value, parse_of_isName h hdepth hlength]
  simp only [Except.mapError, bind, Except.bind,
    eval_meaning_of_isLiteralName hliteral known others]

end Formula

/-! ### Keys of fields -/

section

variable {key : String}

/-- A character that may start a key may start a name. -/
lemma isNameStart_of_isKeyStart {c : Char} (h : isKeyStart c = true) :
    Formula.isNameStart c = true := by
  rw [isKeyStart, Bool.or_eq_true] at h
  rw [Formula.isNameStart, Bool.or_eq_true]
  refine h.imp_left fun hlower => ?_
  exact Bool.or_eq_true_iff.2 (.inr hlower)

/-- A key of a field without line feed is a name. -/
lemma isName_of_isFieldKey (h : isFieldKey key = true) (hfeed : '\n' ∉ key.toList) :
    Formula.IsName key := by
  cases hkey : key.toList with
  | nil => simp [isFieldKey, hkey] at h
  | cons c rest =>
    simp only [isFieldKey, hkey, Bool.and_eq_true, Bool.or_eq_true, List.isEmpty_iff,
      beq_iff_eq] at h
    obtain ⟨hc, htail⟩ := h
    have hall : ∀ d ∈ rest, isKeyStart d || d.isDigit := by
      rcases htail with htail | htail
      · exact List.dropWhile_eq_nil_iff.1 htail
      · have hmem := (List.dropWhile_suffix (l := rest) fun d => isKeyStart d || d.isDigit).subset
          (htail ▸ List.mem_singleton_self _)
        exact absurd (hkey ▸ List.mem_cons_of_mem c hmem) hfeed
    refine ⟨by simp [hkey, isNameStart_of_isKeyStart hc], ?_⟩
    intro d hd
    rw [hkey, List.mem_cons] at hd
    rcases hd with rfl | hd
    · exact Formula.isNameChar_of_isNameStart (isNameStart_of_isKeyStart hc)
    · rcases Bool.or_eq_true_iff.1 (hall d hd) with hd | hd
      · exact Formula.isNameChar_of_isNameStart (isNameStart_of_isKeyStart hd)
      · simp [Formula.isNameChar, Char.isAlphanum, hd]

end

/-! ### What is bound under the keys -/

section

variable {key : String} {f : Field} {fields : List Field} {values : List (String × Value)}
  {quantity : Value} {bound numbers : List (String × Float)}

/-- Binding fields leaves what is bound under a name that is the key of none of them. -/
lemma lookup?_bindFields (hkey : key ∉ fields.map (·.key))
    (h : bindFields values quantity bound fields = .ok numbers) :
    lookup? key numbers = lookup? key bound := by
  induction fields generalizing bound with
  | nil =>
    obtain rfl := Except.ok.inj h
    rfl
  | cons f fields ih =>
    rw [List.map_cons, List.mem_cons, not_or] at hkey
    obtain ⟨v, -, h⟩ := bind_eq_ok.1 h
    rw [ih hkey.2 h, lookup?_assign, if_neg hkey.1]

/-- Binding fields leaves no name bound twice. -/
lemma nodup_keys_bindFields (hbound : (bound.map (·.1)).Nodup)
    (h : bindFields values quantity bound fields = .ok numbers) :
    (numbers.map (·.1)).Nodup := by
  induction fields generalizing bound with
  | nil =>
    obtain rfl := Except.ok.inj h
    exact hbound
  | cons f fields ih =>
    obtain ⟨v, -, h⟩ := bind_eq_ok.1 h
    refine ih ?_ h
    rw [keys_assign]
    split
    · exact hbound
    · next hkey =>
      refine List.nodup_append.2 ⟨hbound, by simp, ?_⟩
      rintro a ha b hb rfl
      exact hkey (List.mem_singleton.1 hb ▸ ha)

/-- **The number of a field is found under its key**, if no other field has that key. -/
lemma exists_interpret_of_bindFields (hnodup : (fields.map (·.key)).Nodup) (hf : f ∈ fields)
    (h : bindFields values quantity bound fields = .ok numbers) :
    ∃ v, f.interpret (f.submittedOr (submitted values f.key) quantity) = .ok v ∧
      lookup? f.key numbers = some v.amount := by
  induction fields generalizing bound with
  | nil => simp at hf
  | cons g fields ih =>
    rw [List.map_cons, List.nodup_cons] at hnodup
    obtain ⟨v, hv, h⟩ := bind_eq_ok.1 h
    rcases List.mem_cons.1 hf with rfl | hf
    · exact ⟨v, hv, by rw [lookup?_bindFields hnodup.1 h, lookup?_assign, if_pos rfl]⟩
    · exact ih hnodup.2 hf h

/-- What is assigned last under a name is found, if no name comes up twice. -/
lemma lookup?_foldl_assign_of_nodup {α : Type} {v : α} {members others : List (String × α)}
    (hnodup : (others.map (·.1)).Nodup) (hv : lookup? key others = some v) :
    lookup? key (others.foldl (fun ms m => assign m.1 m.2 ms) members) = some v := by
  induction others generalizing members with
  | nil => simp [lookup?] at hv
  | cons o others ih =>
    rw [List.map_cons, List.nodup_cons] at hnodup
    rw [List.foldl_cons]
    by_cases ho : o.1 = key
    · obtain rfl : o.2 = v := by simpa [lookup?, ho] using hv
      have hothers : ∀ m ∈ others, m.1 ≠ key := fun m hm hkey =>
        hnodup.1 (List.mem_map.2 ⟨m, hm, hkey.trans ho.symm⟩)
      rw [lookup?_foldl_assign hothers, lookup?_assign, if_pos ho.symm]
    · exact ih hnodup.2 (by simpa [lookup?, ho] using hv)

end

namespace Quote

variable {key : String} {t : Template} {r : Request} {n : Int} {base count : Float}
  {numbers : List (String × Float)} {known : Formula.Bindings} {quantity : Value}

/-- The quantity is bound only where nothing else has its name. -/
lemma lookup?_bindings (hkey : key = "base_price" ∨ key ∈ numbers.map (·.1))
    (h : bindings (numbers.map fun m => (m.1, .float m.2)) (.float base) quantity = .ok known) :
    lookup? key known = lookup? key ((numbers.map fun m => (m.1, Value.float m.2)).foldl
      (fun b m => assign m.1 m.2 b) [("base_price", .float base)]) := by
  have hbase : (Value.float base).toFloat = .ok base := rfl
  simp only [bindings, hbase, bind_eq_ok, Except.ok.injEq, exists_eq_left'] at h
  split_ifs at h with hnull hquantity
  · obtain rfl := Except.ok.inj h
    rfl
  · obtain rfl := Except.ok.inj h
    rfl
  · obtain ⟨x, -, h⟩ := bind_eq_ok.1 h
    obtain rfl := Except.ok.inj h
    have hne : key ≠ "quantity" := by
      rintro rfl
      rw [isSome_lookup?_iff, List.map_map] at hquantity
      exact hquantity (hkey.resolve_left (by decide))
    rw [lookup?_assign, if_neg hne]

/-- The base price is bound under its name unless that is the key of a field. -/
lemma lookup?_base_price (hkey : "base_price" ∉ numbers.map (·.1))
    (h : bindings (numbers.map fun m => (m.1, .float m.2)) (.float base) quantity = .ok known) :
    lookup? "base_price" known = some (.float base) := by
  rw [lookup?_bindings (.inl rfl) h, lookup?_foldl_assign]
  · rfl
  · intro m hm
    obtain ⟨m', hm', rfl⟩ := List.mem_map.1 hm
    intro hname
    exact hkey (List.mem_map.2 ⟨m', hm', hname⟩)

/-- The number of a field is bound under its key. -/
lemma lookup?_of_numbers {x : Float} (hnodup : (numbers.map (·.1)).Nodup)
    (hx : lookup? key numbers = some x)
    (h : bindings (numbers.map fun m => (m.1, .float m.2)) (.float base) quantity = .ok known) :
    lookup? key known = some (.float x) := by
  have hkey : key ∈ numbers.map (·.1) := isSome_lookup?_iff.1 (by rw [hx]; rfl)
  rw [lookup?_bindings (.inr hkey) h]
  refine lookup?_foldl_assign_of_nodup ?_ ?_
  · rwa [List.map_map]
  · rw [lookup?, List.find?_map, Option.map_map]
    rw [lookup?, Option.map_eq_some_iff] at hx
    obtain ⟨m, hm, rfl⟩ := hx
    exact Option.map_eq_some_iff.2 ⟨m, hm, rfl⟩

/-- There are bindings for every quantity that has a double. -/
lemma exists_context (hbind : t.bind r.values (.int n) = .ok numbers) (hn : ofInt? n = some count) :
    ∃ known, context t r n = .ok known ∧
      bindings (numbers.map fun m => (m.1, .float m.2)) (.float r.basePrice) (.int n) =
        .ok known := by
  have hbase : (Value.float r.basePrice).toFloat = .ok r.basePrice := rfl
  have hcount := toFloat_int_eq_ok_iff.2 hn
  have hmade : ∃ known, bindings (numbers.map fun m => (m.1, .float m.2)) (.float r.basePrice)
      (.int n) = .ok known := by
    simp only [bindings, hbase, hcount, bind_eq_ok, Except.ok.injEq, exists_eq_left']
    split_ifs <;> exact ⟨_, rfl⟩
  obtain ⟨known, hknown⟩ := hmade
  exact ⟨known, bind_eq_ok.2 ⟨numbers, hbind, ofFault_eq_ok_iff.2 hknown⟩, hknown⟩

/-- The fields of a template that passes the check have keys of fields, none of them twice. -/
lemma keys_of_isValid {checked : Formula.Limits} {c : Catalog}
    (h : (c.check checked t).isValid = true) :
    (∀ f ∈ t.fields, isFieldKey f.key = true) ∧ (t.fields.map (·.key)).Nodup := by
  have hfit := Template.isValid_iff.1 h
  exact ⟨hfit.keys, hfit.nodup_keys⟩

/-- The fields that the formula may use have different keys if all fields have. -/
lemma nodup_variableKeys (h : (t.fields.map (·.key)).Nodup) : t.variableKeys.Nodup := by
  have hperm : t.variableFields.Perm (t.fields.filter Field.givesNumber) :=
    List.mergeSort_perm _ _
  exact (hperm.map (·.key)).nodup_iff.2 (h.sublist (List.filter_sublist.map _))

/-- **What the names mean in a quote.** For a template that passes the check, values that are
reduced to finite numbers, a quantity that has a double and a finite base price there are bindings,
and under them a formula of a single name has a price:

* `base_price` is the base price, rounded to cents, unless it is the key of a field;
* the key of a field is the number of that field, rounded to cents, unless it is one of the words
  with a meaning of their own, and those have it whatever is bound.

The limits have to permit a formula of that length, there has to be room for the call that looks a
name up, and the key has to be free of line feeds.

**Proof sketch.** The check makes each key one name (`isName_of_isFieldKey`) that belongs to one
field only (`keyProblems_eq_nil_iff`). So the number of a field is found under its key among the
numbers of the fields (`exists_interpret_of_bindFields`), and neither the base price nor the
quantity takes its place among the bindings (`lookup?_of_numbers`). -/
theorem names_mean {checked limits : Formula.Limits} {room : Nat} {c : Catalog}
    (hvalid : (c.check checked t).isValid = true) (hbase : r.basePrice.isFinite = true)
    (hbind : t.bind r.values (.int n) = .ok numbers)
    (hfinite : ∀ m ∈ numbers, m.2.isFinite = true) (hn : ofInt? n = some count)
    (hdepth : 1 ≤ limits.depth) (hroom : Formula.callsToBinding ≤ room) :
    ∃ known, context t r n = .ok known ∧
      ("base_price" ∉ t.variableKeys →
        (∀ limit, limits.length = some limit → ("base_price".length : Int) ≤ limit) →
        Formula.price limits room (some "base_price") known = .ok (toCents r.basePrice)) ∧
      ∀ f ∈ t.variableFields, '\n' ∉ f.key.toList →
        (∀ limit, limits.length = some limit → (f.key.length : Int) ≤ limit) →
        (Formula.isLiteralName f.key = false →
          ∃ v, f.interpret (f.submittedOr (submitted r.values f.key) (.int n)) = .ok v ∧
            Formula.price limits room (some f.key) known = .ok (toCents v.amount)) ∧
        (Formula.isLiteralName f.key = true → ∀ others,
          Formula.price limits room (some f.key) known =
            Formula.price limits room (some f.key) others) := by
  obtain ⟨hkeys, hnodup⟩ := keys_of_isValid hvalid
  obtain ⟨known, hcontext, hknown⟩ := exists_context hbind hn
  have hnumbers : (numbers.map (·.1)).Nodup := by
    refine nodup_keys_bindFields ?_ hbind
    exact List.nodup_nil
  refine ⟨known, hcontext, fun hkey hlength => ?_, fun f hf hfeed hlength => ?_⟩
  · have hname : Formula.IsName "base_price" :=
      ⟨by decide, List.all_eq_true.1 (by decide)⟩
    refine Formula.price_of_isName hname (by decide) hdepth hroom hlength ?_ hbase
    exact lookup?_base_price (fun h => hkey ((Template.mem_keys_bind hbind).1 h)) hknown
  · have hname := isName_of_isFieldKey (hkeys f (Template.mem_variableFields_iff.1 hf).1) hfeed
    refine ⟨fun hliteral => ?_, fun hliteral others => ?_⟩
    · obtain ⟨v, hv, hnumber⟩ :=
        exists_interpret_of_bindFields (nodup_variableKeys hnodup) hf hbind
      refine ⟨v, hv, Formula.price_of_isName hname hliteral hdepth hroom hlength ?_ ?_⟩
      · exact lookup?_of_numbers hnumbers hnumber hknown
      · exact hfinite (f.key, v.amount) (mem_of_lookup? hnumber)
    · exact Formula.price_of_isLiteralName hname hliteral hdepth hlength known others

/-- A template with one field, the price of one piece, under a given key. -/
def oneNamed (key : String) : Template :=
  { oneField with name := "One", formula := some key,
                  fields := [⟨key, .number, "", false, true, [], 0⟩] }

/-- The one field gives its number to the formula. -/
lemma variableFields_oneNamed (key : String) :
    (oneNamed key).variableFields = (oneNamed key).fields := by
  simp [oneNamed, Template.variableFields, Field.inDisplayOrder, Field.givesNumber,
    FieldType.isNumeric]

/-- A request for three pieces at ten, with 2.5 submitted under a given key. -/
def threeNamed (key : String) : Request :=
  ⟨[(key, .float 2.5)], .int 3, 10.0, false⟩

/-- The limits of the standard settings. -/
abbrev standardLimits : Formula.Limits :=
  (Settings.standard "").limits

/-- The standard settings permit formulas of 2000 characters. -/
lemma standardLimits_length {m : Nat} (h : m ≤ 2000) (limit : Int)
    (hlimit : standardLimits.length = some limit) : (m : Int) ≤ limit := by
  obtain rfl : 2000 = limit := Option.some.inj hlimit
  omega

/-- The template passes the check if its formula does and its key is one. -/
lemma isValid_oneNamed {key : String} (hkey : isFieldKey key = true)
    (hformula : (Formula.check standardLimits (some key) [key]).problems = []) :
    (Catalog.check standardLimits ⟨[]⟩ (oneNamed key)).isValid = true := by
  have hreport : ((oneNamed key).formulaReport standardLimits).problems = [] := by
    rw [Template.formulaReport, Template.variableKeys, variableFields_oneNamed]
    exact hformula
  exact Template.isValid_iff.2
    { name := by rw [show (oneNamed key).name = "One" from rfl]; decide
      keys := by simpa [oneNamed] using hkey
      nodup_keys := by simp [oneNamed]
      formula := hreport
      scope := by simp [oneNamed, oneField]
      express := by simp [oneNamed, oneField]
      quantities := by simp [oneNamed, oneField]
      tiers := by simp [oneNamed, oneField] }

/-- The number that is submitted is bound. -/
lemma bind_oneNamed (key : String) :
    (oneNamed key).bind (threeNamed key).values (.int 3) = .ok [(key, 2.5)] := by
  have hfound : submitted (threeNamed key).values key = .float 2.5 := by
    simp [submitted, lookup?, threeNamed]
  rw [Template.bind, variableFields_oneNamed]
  simp only [oneNamed, bindFields, hfound]
  rfl

/-- The key `x` stands for the value of its field, and `base_price` for the base price. -/
theorem names_mean_oneNamed :
    (Catalog.check standardLimits ⟨[]⟩ (oneNamed "x")).isValid = true ∧
    (oneNamed "x").bind (threeNamed "x").values (.int 3) = .ok [("x", 2.5)] ∧
    ∃ known, context (oneNamed "x") (threeNamed "x") 3 = .ok known ∧
      Formula.price standardLimits standardCalls (some "base_price") known = .ok (toCents 10.0) ∧
      Formula.price standardLimits standardCalls (some "x") known = .ok (toCents 2.5) := by
  have hvalid : (Catalog.check standardLimits ⟨[]⟩ (oneNamed "x")).isValid = true :=
    isValid_oneNamed (by decide) (by decide +kernel)
  have hcount : ofInt? 3 = some 3.0 := by decide +kernel
  have hfinite : ∀ m ∈ [("x", (2.5 : Float))], m.2.isFinite = true := by
    intro m hm
    obtain rfl := List.mem_singleton.1 hm
    decide +kernel
  have hkeys : (oneNamed "x").variableKeys = ["x"] := by
    rw [Template.variableKeys, variableFields_oneNamed]
    rfl
  obtain ⟨known, hknown, hbase, hnames⟩ := names_mean (r := threeNamed "x") hvalid
    (by decide +kernel) (bind_oneNamed "x") hfinite hcount
    (show 1 ≤ standardLimits.depth by decide)
    (show Formula.callsToBinding ≤ standardCalls by decide)
  obtain ⟨v, hv, hprice⟩ := (hnames ⟨"x", .number, "", false, true, [], 0⟩
    (by rw [variableFields_oneNamed]; exact List.mem_singleton_self _) (by decide)
    (standardLimits_length (by decide))).1 (by decide)
  obtain rfl : FieldValue.number 2.5 = v := Except.ok.inj hv
  exact ⟨hvalid, bind_oneNamed "x", known, hknown,
    hbase (by rw [hkeys]; decide) (standardLimits_length (by decide)), hprice⟩

/-- A field under the key `true` passes the check, but under the bindings of a quote its key stands
for the truth value, not for the number that is submitted. -/
theorem price_true_ne :
    (Catalog.check standardLimits ⟨[]⟩ (oneNamed "true")).isValid = true ∧
    (oneNamed "true").bind (threeNamed "true").values (.int 3) = .ok [("true", 2.5)] ∧
    ∃ known, context (oneNamed "true") (threeNamed "true") 3 = .ok known ∧
      Formula.price standardLimits standardCalls (some "true") known = .ok (toCents 1.0) ∧
      toCents 1.0 ≠ toCents 2.5 := by
  have hcount : ofInt? 3 = some 3.0 := by decide +kernel
  have hname : Formula.IsName "true" := ⟨by decide, List.all_eq_true.1 (by decide)⟩
  obtain ⟨known, hknown, -⟩ :=
    exists_context (r := threeNamed "true") (bind_oneNamed "true") hcount
  refine ⟨isValid_oneNamed (by decide) (by decide +kernel), bind_oneNamed "true", known, hknown, ?_,
    by decide +kernel⟩
  rw [Formula.price, Formula.value, Formula.parse_of_isName hname (by decide)
    (standardLimits_length (by decide))]
  rfl

end Quote

end Tariff
