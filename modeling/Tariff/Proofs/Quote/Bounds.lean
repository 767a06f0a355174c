import Tariff.Proofs.Number.Decimal
import Tariff.Proofs.Quote.Choices
import Tariff.Proofs.Quote.Faults
import Tariff.Proofs.Quote.Naming

/-!
# Which numbers are bound to fields

The number of a field is finite unless what is submitted for it has no bounds: a double that is not
finite, a text that is read as an infinity or as not-a-number, be it as a word or as a decimal
beyond the doubles, or choices whose prices add up to one. Such a number is bound like any other. A
value in which something is in excess is not bound, but ends in a fault instead of a failure that
names the field. Of several fields with one key the last one counts.

## Main definitions

* `Tariff.Failure.field?` — the field that a failure names.
* `Tariff.Field.HasFinitePrices` — the options of a field have finite prices.
* `Tariff.Field.IsBoundless` — values whose number is not finite.
* `Tariff.IsLast` — a field is the last one of its key.

## Main results

* `Tariff.Number.isFinite_of_readFloat?` — which texts are read as infinities or not-a-number.
* `Tariff.Field.isFinite_of_interpret` — the number of a value is finite unless it is boundless.
* `Tariff.bindFields_eq_error_iff` — the first field that has no number decides.
* `Tariff.Template.bind_finite` — when only finite numbers are bound, and what else may happen.
-/

set_option autoImplicit false

namespace Tariff

open Tariff.Number Tariff.Text

/-! ### Texts that are read as doubles -/

namespace Number

variable {s : String} {cs : List Char} {x : Float}

/-- The characters of a numeral without the blanks around it and without its sign. -/
def unsigned (s : String) : List Char :=
  (takeSign (withoutNumeralBlanks s)).2

/-- The double of a whole number is finite. -/
lemma isFinite_of_ofInt? {n : Int} (h : ofInt? n = some x) : x.isFinite = true := by
  simp only [ofInt?, Option.ite_none_right_eq_some] at h
  obtain ⟨hfinite, hx⟩ := h
  rwa [← Option.some.inj hx]

/-- The words that are read as an infinity or as not-a-number. -/
def boundlessWords : List (List Char) :=
  ["inf".toList, "infinity".toList, "nan".toList]

/-- A text is one of the words for an infinity or not-a-number, in letters of any case, or a decimal
from the bound of the doubles on. -/
def IsBoundlessText (cs : List Char) : Prop :=
  cs.map Char.toLower ∈ boundlessWords ∨ ∃ ds e, decimal? cs = some (ds, e) ∧
    overflowBound ≤ (digitsValue ds : ℚ) * 10 ^ e

/-- The texts without sign that are read as infinities or not-a-number. -/
lemma isFinite_of_readMagnitude? (h : readMagnitude? cs = some x) :
    x.isFinite = false ↔ IsBoundlessText cs := by
  have hinfinite : (1.0 / 0.0 : Float).isFinite = false := by decide +kernel
  have hnan : (0.0 / 0.0 : Float).isFinite = false := by decide +kernel
  have hmem : cs.map Char.toLower ∈ boundlessWords ↔
      (cs.map Char.toLower = ['i', 'n', 'f'] ∨
        cs.map Char.toLower = ['i', 'n', 'f', 'i', 'n', 'i', 't', 'y']) ∨
      cs.map Char.toLower = ['n', 'a', 'n'] := by
    simp [boundlessWords, or_assoc]
  simp only [readMagnitude?, Bool.or_eq_true, beq_iff_eq] at h
  split_ifs at h with hinf hword
  · obtain rfl := Option.some.inj h
    exact iff_of_true hinfinite (.inl (hmem.2 (.inl hinf)))
  · obtain rfl := Option.some.inj h
    exact iff_of_true hnan (.inl (hmem.2 (.inr hword)))
  · rw [IsBoundlessText, hmem, or_iff_right (not_or_intro hinf hword)]
    exact isFinite_of_readDecimal? h

/-- **Which texts are read as infinities or not-a-number.** -/
theorem isFinite_of_readFloat? (h : readFloat? s = some x) :
    x.isFinite = false ↔ IsBoundlessText (unsigned s) := by
  obtain ⟨y, hy, rfl⟩ : ∃ y, readMagnitude? (unsigned s) = some y ∧
      (if (takeSign (withoutNumeralBlanks s)).1 then -y else y) = x := Option.map_eq_some_iff.1 h
  rw [← isFinite_of_readMagnitude? hy]
  split
  · rw [← Bool.not_eq_true, isFinite_neg_iff, Bool.not_eq_true]
  · rfl

end Number

/-! ### Numbers of values -/

/-- The field that a failure names for its value, by its key. -/
def Failure.field? : Failure → Option String
  | unknownOption key _ | textNotNumeric key _ | unsupportedValue key _ => some key
  | _ => none

/-- The delta of an option is finite if its price is. -/
lemma FieldOption.isFinite_delta {o : FieldOption} (h : ∀ x, o.price = some x → x.isFinite = true) :
    o.delta.isFinite = true := by
  have hzero : (0.0 : Float).isFinite = true := by decide +kernel
  rw [delta]
  split
  · next x hx =>
    split
    · exact hzero
    · exact h x hx
  · exact hzero

namespace Field

variable {f : Field} {v : Value} {value : FieldValue} {failure : Failure}

/-- The options of a field have finite prices. -/
def HasFinitePrices (f : Field) : Prop :=
  ∀ o ∈ f.options, ∀ x, o.price = some x → x.isFinite = true

/-- The values whose number for a field is not finite. -/
inductive IsBoundless (f : Field) : Value → Prop where
  /-- a double that is not finite -/
  | float {x : Float} (h : x.isFinite = false) : IsBoundless f (.float x)
  /-- a text that is read as such a double, for a field without options -/
  | text {s : String} (hoptions : f.type.hasOptions = false)
    (h : IsBoundlessText (unsigned (trim s))) : IsBoundless f (.text s)
  /-- choices whose deltas add up to such a double -/
  | choices {v : Value} {vs : List Value} {os : List FieldOption}
    (hoptions : f.type.hasOptions = true) (hv : choices v = .ok vs) (hos : f.Chooses vs os)
    (h : (FieldOption.total os).isFinite = false) : IsBoundless f v

/-- A truth value is not boundless. -/
lemma not_isBoundless_bool (b : Bool) : ¬f.IsBoundless (.bool b) := by
  rintro (_ | _ | ⟨-, hvs, -, -⟩)
  cases hvs

/-- A whole number is not boundless. -/
lemma not_isBoundless_int (n : Int) : ¬f.IsBoundless (.int n) := by
  rintro (_ | _ | ⟨-, hvs, -, -⟩)
  cases hvs

/-- Choices are boundless iff what they add up to is not finite. -/
lemma isBoundless_choices_iff {vs : List Value} {os : List FieldOption}
    (hoptions : f.type.hasOptions = true) (hv : Field.choices v = .ok vs) (hos : f.Chooses vs os) :
    f.IsBoundless v ↔ (FieldOption.total os).isFinite = false := by
  refine ⟨?_, .choices hoptions hv hos⟩
  rintro (_ | ⟨hnone, -⟩ | ⟨-, hvs, hos', h⟩)
  · cases hv
  · simp [hoptions] at hnone
  · obtain rfl := Except.ok.inj (hv.symm.trans hvs)
    rwa [hos.unique hos']

/-- The sum of choices is finite unless they are boundless. -/
lemma isFinite_of_choices {vs : List Value} (hoptions : f.type.hasOptions = true)
    (hv : choices v = .ok vs) (h : f.interpret v = .ok value) :
    value.amount.isFinite = false ↔ f.IsBoundless v := by
  obtain ⟨texts, os, -, hos, rfl⟩ := (interpret_eq_ok_iff hoptions hv).1 h
  exact (isBoundless_choices_iff hoptions hv hos).symm

/-- The number of a box is finite: it is zero or one, or the delta of the one option. -/
lemma isFinite_of_interpret_bool {b : Bool} (hprices : f.HasFinitePrices)
    (h : f.interpret (.bool b) = .ok value) : value.amount.isFinite = true := by
  have hbool : (FieldValue.bool b).amount.isFinite = true := by
    cases b <;> decide +kernel
  simp only [interpret] at h
  split at h
  · next o hoptions =>
    obtain rfl := Except.ok.inj h
    split
    · exact FieldOption.isFinite_delta (hprices o (by simp [hoptions]))
    · exact hbool
  · obtain rfl := Except.ok.inj h
    exact hbool

/-- **The number of a value is finite unless the value is boundless**, if the options of the field
have finite prices.

**Proof sketch.** The cases are those of the reading. A box that is ticked may add the price of an
option, and choices have the sum that `interpret_eq_ok_iff` gives. -/
lemma isFinite_of_interpret (hprices : f.HasFinitePrices) (h : f.interpret v = .ok value) :
    value.amount.isFinite = false ↔ f.IsBoundless v := by
  cases v with
  | null =>
    simp only [interpret] at h
    split_ifs at h
    · cases h
    · cases h
  | bool b =>
    refine iff_of_false ?_ (not_isBoundless_bool b)
    rw [Bool.not_eq_false]
    exact isFinite_of_interpret_bool hprices h
  | int n =>
    refine iff_of_false ?_ (not_isBoundless_int n)
    rw [interpret, ofFault_eq_ok_iff, map_eq_ok] at h
    obtain ⟨x, hx, rfl⟩ := h
    rw [Bool.not_eq_false]
    exact isFinite_of_ofInt? (toFloat_int_eq_ok_iff.1 hx)
  | float x =>
    rw [interpret, ofFault_eq_ok_iff, map_eq_ok] at h
    obtain ⟨_, ⟨⟩, rfl⟩ := h
    refine ⟨.float, ?_⟩
    rintro (hx | _ | ⟨-, hvs, -, -⟩)
    · exact hx
    · cases hvs
  | text s =>
    by_cases hoptions : f.type.hasOptions = true
    · exact isFinite_of_choices hoptions rfl h
    simp only [interpret, if_neg hoptions] at h
    split at h
    · next x hx =>
      obtain rfl := Except.ok.inj h
      rw [FieldValue.amount, isFinite_of_readFloat? hx]
      refine ⟨.text (by simpa using hoptions), ?_⟩
      rintro (_ | ⟨-, hs⟩ | ⟨hsome, -⟩)
      · exact hs
      · exact absurd hsome hoptions
    · cases h
  | list items =>
    by_cases hoptions : f.type.hasOptions = true
    · exact isFinite_of_choices hoptions rfl h
    · simp [interpret, hoptions, bind_eq_ok] at h
  | object members =>
    by_cases hoptions : f.type.hasOptions = true
    · exact isFinite_of_choices hoptions rfl h
    · simp [interpret, hoptions, bind_eq_ok] at h

/-- Choices are turned away in the name of the field, or in a fault. -/
lemma field?_of_choices {vs : List Value} (hoptions : f.type.hasOptions = true)
    (hv : choices v = .ok vs) (h : f.interpret v = .error failure) :
    failure.field? = some f.key ∨ ∃ cause, failure = .fault cause := by
  obtain ⟨_, _, _, -, -, hturned⟩ := (interpret_eq_error_iff hoptions hv).1 h
  cases hturned with
  | unknown => exact .inl rfl
  | unwritten => exact .inr ⟨_, rfl⟩

/-- What fails in a fault is turned away in it. -/
lemma exists_of_ofFault {α : Type} {c : Except Fault α} (h : Failure.ofFault c = .error failure) :
    ∃ cause, failure = .fault cause := by
  obtain ⟨cause, -, rfl⟩ := mapError_eq_error.1 h
  exact ⟨cause, rfl⟩

/-- A value of no use is turned away in the name of the field, or in a fault. -/
lemma field?_of_unsupported {literal : Except Fault String}
    (h : (Failure.ofFault literal >>= fun s => .error (.unsupportedValue f.key s) :
      Except Failure FieldValue) = .error failure) :
    failure.field? = some f.key ∨ ∃ cause, failure = .fault cause := by
  rcases bind_eq_error.1 h with h | ⟨s, -, h⟩
  · exact .inr (exists_of_ofFault h)
  · obtain rfl := Except.error.inj h
    exact .inl rfl

/-- A value is turned away in the name of its field, or in a fault. -/
lemma field?_of_interpret (h : f.interpret v = .error failure) :
    failure.field? = some f.key ∨ ∃ cause, failure = .fault cause := by
  cases v with
  | null =>
    simp only [interpret] at h
    split_ifs at h
    · rcases bind_eq_error.1 h with h | ⟨_, h, -⟩
      · exact .inr (exists_of_ofFault h)
      · cases h
    · exact field?_of_unsupported h
  | bool b =>
    simp only [interpret] at h
    split at h <;> cases h
  | int n =>
    rw [interpret] at h
    exact .inr (exists_of_ofFault h)
  | float x =>
    rw [interpret] at h
    exact .inr (exists_of_ofFault h)
  | text s =>
    by_cases hoptions : f.type.hasOptions = true
    · exact field?_of_choices hoptions rfl h
    simp only [interpret, if_neg hoptions] at h
    split at h
    · cases h
    · obtain rfl := Except.error.inj h
      exact .inl rfl
  | list items =>
    by_cases hoptions : f.type.hasOptions = true
    · exact field?_of_choices hoptions rfl h
    · simp only [interpret, if_neg hoptions] at h
      exact field?_of_unsupported h
  | object members =>
    by_cases hoptions : f.type.hasOptions = true
    · exact field?_of_choices hoptions rfl h
    · simp only [interpret, if_neg hoptions] at h
      exact field?_of_unsupported h

end Field

/-! ### Numbers of fields -/

/-- A field is the last one of its key among fields. -/
def IsLast (fields : List Field) (f : Field) : Prop :=
  ∃ before after, fields = before ++ f :: after ∧ f.key ∉ after.map (·.key)

section

variable {values : List (String × Value)} {quantity : Value} {bound numbers : List (String × Float)}
  {fields others : List Field} {f : Field} {key : String} {failure : Failure}

/-- Each key of fields has a last field. -/
lemma exists_isLast (h : key ∈ fields.map (·.key)) : ∃ f, IsLast fields f ∧ f.key = key := by
  induction fields with
  | nil => simp at h
  | cons g fields ih =>
    by_cases hrest : key ∈ fields.map (·.key)
    · obtain ⟨f, ⟨before, after, rfl, hafter⟩, hkey⟩ := ih hrest
      exact ⟨f, ⟨g :: before, after, rfl, hafter⟩, hkey⟩
    · rw [List.map_cons, List.mem_cons] at h
      obtain rfl := h.resolve_right hrest
      exact ⟨g, ⟨[], fields, rfl, hrest⟩, rfl⟩

/-- The last field of a key is one of the fields. -/
lemma IsLast.mem (hf : IsLast fields f) : f ∈ fields := by
  obtain ⟨before, after, rfl, -⟩ := hf
  simp

/-- Binding some fields and then others is binding all of them. -/
lemma bindFields_append : bindFields values quantity bound (fields ++ others) =
    bindFields values quantity bound fields >>= fun bound =>
      bindFields values quantity bound others := by
  induction fields generalizing bound with
  | nil => rfl
  | cons f fields ih =>
    rw [List.cons_append, bindFields, bindFields]
    cases f.interpret (f.submittedOr (submitted values f.key) quantity) with
    | error => rfl
    | ok v => exact ih

/-- The number of the last field of a key is found under it. -/
lemma IsLast.lookup?_bindFields (hf : IsLast fields f)
    (h : bindFields values quantity bound fields = .ok numbers) :
    ∃ v, f.interpret (f.submittedOr (submitted values f.key) quantity) = .ok v ∧
      lookup? f.key numbers = some v.amount := by
  obtain ⟨before, after, rfl, hafter⟩ := hf
  rw [bindFields_append] at h
  obtain ⟨_, -, h⟩ := bind_eq_ok.1 h
  obtain ⟨v, hv, h⟩ := bind_eq_ok.1 h
  exact ⟨v, hv, by rw [Tariff.lookup?_bindFields hafter h, lookup?_assign, if_pos rfl]⟩

/-- **The first field that has no number decides** how the binding of fields fails. -/
lemma bindFields_eq_error_iff : bindFields values quantity bound fields = .error failure ↔
    ∃ before f after, fields = before ++ f :: after ∧
      (∀ g ∈ before, ∃ v, g.interpret (g.submittedOr (submitted values g.key) quantity) = .ok v) ∧
      f.interpret (f.submittedOr (submitted values f.key) quantity) = .error failure := by
  induction fields generalizing bound with
  | nil => simp [bindFields]
  | cons f fields ih =>
    rw [bindFields, bind_eq_error, exists_first_cons]
    simp only [ih, exists_and_right]

/-- Of fields with finite prices only finite numbers are bound iff what is submitted for the last
field of each key is not boundless.

**Proof sketch.** No key is bound twice, so that a number is bound iff it is found under its key.
Under a key the number of its last field is found. -/
lemma forall_isFinite_iff (hprices : ∀ f ∈ fields, f.HasFinitePrices)
    (h : bindFields values quantity [] fields = .ok numbers) :
    (∀ m ∈ numbers, m.2.isFinite = true) ↔ ∀ f, IsLast fields f →
      ¬f.IsBoundless (f.submittedOr (submitted values f.key) quantity) := by
  have hnodup : (numbers.map (·.1)).Nodup := by
    refine nodup_keys_bindFields ?_ h
    exact List.nodup_nil
  constructor
  · intro hfinite f hf hboundless
    obtain ⟨v, hv, hlookup⟩ := hf.lookup?_bindFields h
    have hamount := (Field.isFinite_of_interpret (hprices f hf.mem) hv).2 hboundless
    rw [hfinite (f.key, v.amount) (mem_of_lookup? hlookup)] at hamount
    cases hamount
  · intro hbounded m hm
    have hkey : m.1 ∈ fields.map (·.key) :=
      ((mem_keys_bindFields h).1 (List.mem_map_of_mem hm)).resolve_right List.not_mem_nil
    obtain ⟨f, hf, hfkey⟩ := exists_isLast hkey
    obtain ⟨v, hv, hlookup⟩ := hf.lookup?_bindFields h
    rw [hfkey, lookup?_of_mem hnodup hm] at hlookup
    rw [Option.some.inj hlookup, ← Bool.not_eq_false,
      Field.isFinite_of_interpret (hprices f hf.mem) hv]
    exact hbounded f hf

end

/-- **When only finite numbers are bound, and what else may happen.** Let the options of a template
have finite prices, and let the quantity have a double. Either numbers are bound, and they are all
finite iff what is submitted for the last field of each key is not boundless. Or the first field
whose value is turned away decides: the failure names it, or something is in excess in what is
submitted for it, and the binding ends in the fault of that.

**Proof sketch.** The numbers that are bound are those of `forall_isFinite_iff`, and the first field
that has none is that of `bindFields_eq_error_iff`. Its value is turned away by name, or in a fault,
and then something is in excess in it (`Field.excess_of_interpret`), which the quantity is not. -/
theorem Template.bind_finite {t : Template} {values : List (String × Value)} {n : Int}
    {count : Float} (hprices : ∀ f ∈ t.fields, f.HasFinitePrices) (hn : ofInt? n = some count) :
    (∃ numbers, t.bind values (.int n) = .ok numbers ∧
      ((∀ m ∈ numbers, m.2.isFinite = true) ↔ ∀ f, IsLast t.variableFields f →
        ¬f.IsBoundless (f.submittedOr (submitted values f.key) (.int n)))) ∨
    ∃ before f after failure, t.variableFields = before ++ f :: after ∧
      (∀ g ∈ before, ∃ v,
        g.interpret (g.submittedOr (submitted values g.key) (.int n)) = .ok v) ∧
      t.bind values (.int n) = .error failure ∧
      (failure.field? = some f.key ∨
        ∃ cause, failure = .fault cause ∧ f.Excess (submitted values f.key) cause) := by
  cases hbind : t.bind values (.int n) with
  | ok numbers =>
    refine .inl ⟨numbers, rfl, forall_isFinite_iff (fun f hf => ?_) hbind⟩
    exact hprices f (mem_variableFields_iff.1 hf).1
  | error failure =>
    obtain ⟨before, f, after, hsplit, hbefore, hf⟩ := bindFields_eq_error_iff.1 hbind
    refine .inr ⟨before, f, after, failure, hsplit, hbefore, rfl, ?_⟩
    refine (Field.field?_of_interpret hf).imp_right ?_
    rintro ⟨cause, rfl⟩
    have hexcess := Field.excess_of_interpret Field.submittedOr_ne_null hf
    refine ⟨cause, rfl, (Field.excess_of_submittedOr hexcess).resolve_right ?_⟩
    rintro ⟨⟨_, ⟨⟩, hnone⟩, -⟩
    simp [hn] at hnone

namespace Quote

/-- A text that is submitted for the one field is bound as the double it is read as. -/
lemma bind_oneField {s : String} {x : Float} (hblank : isBlankText s = false)
    (hread : readFloat? (trim s) = some x) (n : Int) :
    oneField.bind [("x", .text s)] (.int n) = .ok [("x", x)] := by
  have hfield : (⟨"x", .number, "", false, true, [], 0⟩ : Field).interpret (.text s) =
      .ok (.number x) := by
    simp [Field.interpret, FieldType.hasOptions, hread]
  have hsubmitted : submitted [("x", Value.text s)] "x" = .text s := rfl
  rw [Template.bind, variableFields_oneField]
  simp only [oneField, bindFields, hsubmitted, Field.submittedOr, Value.isBlank, hblank]
  rw [if_neg Bool.false_ne_true, hfield]
  rfl

/-- The one field has no options, and so no prices that are not finite. -/
lemma hasFinitePrices_oneField : ∀ f ∈ oneField.fields, f.HasFinitePrices := by
  intro f hf
  obtain rfl := List.mem_singleton.1 hf
  exact nofun

/-- A text of a decimal is bound as a finite number. -/
theorem bind_finite_oneField :
    oneField.bind [("x", .text "12.5")] (.int 3) = .ok [("x", 12.5)] ∧
      ∀ f, IsLast oneField.variableFields f →
        ¬f.IsBoundless (f.submittedOr (submitted [("x", .text "12.5")] f.key) (.int 3)) := by
  have hread : readFloat? (trim "12.5") = some 12.5 := by decide +kernel
  have hbind := bind_oneField (by decide) hread 3
  have hcount : ofInt? 3 = some 3.0 := by decide +kernel
  refine ⟨hbind, ?_⟩
  obtain ⟨numbers, hnumbers, hiff⟩ | ⟨_, _, _, failure, -, -, hfailure, -⟩ :=
    @Template.bind_finite oneField [("x", .text "12.5")] 3 _ hasFinitePrices_oneField hcount
  · obtain rfl := Except.ok.inj (hbind.symm.trans hnumbers)
    refine hiff.1 fun m hm => ?_
    obtain rfl := List.mem_singleton.1 hm
    decide +kernel
  · cases hbind.symm.trans hfailure

/-- The words for not-a-number and for an infinity are bound, and so is a decimal beyond the
doubles. -/
theorem bind_oneField_boundless :
    (∀ f ∈ oneField.fields, f.HasFinitePrices) ∧ ofInt? 1 = some 1.0 ∧
    ∀ s ∈ ["nan", "Infinity", "1e999"], ∃ x,
      oneField.bind [("x", .text s)] (.int 1) = .ok [("x", x)] ∧ x.isFinite = false := by
  have hnan : readFloat? (trim "nan") = some (0.0 / 0.0) := by decide +kernel
  have hword : readFloat? (trim "Infinity") = some (1.0 / 0.0) := by decide +kernel
  have hdecimal : readFloat? (trim "1e999") = some (1.0 / 0.0) := by decide +kernel
  refine ⟨hasFinitePrices_oneField, by decide +kernel, ?_⟩
  simp only [List.forall_mem_cons, List.not_mem_nil, false_implies, implies_true, and_true]
  exact ⟨⟨_, bind_oneField (by decide) hnan 1, by decide +kernel⟩,
    ⟨_, bind_oneField (by decide) hword 1, by decide +kernel⟩,
    ⟨_, bind_oneField (by decide) hdecimal 1, by decide +kernel⟩⟩

end Quote

end Tariff
