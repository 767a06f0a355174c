import Tariff.Proofs.Quote.Gate

/-!
# What a customer can put into a quote

Of what a customer submits, a quote depends on the values of the fields that the formula may use,
and on whether a value is there for each other field that is required. Whatever else is submitted,
under names of the library's own or under names that no field has, makes no difference.

## Main definitions

* `Tariff.Template.SeesAlike` — two submissions are alike for a template.

## Main results

* `Tariff.missingField?_eq_of_seesAlike` — alike submissions lack the same fields.
* `Tariff.bindFields_eq_of_submitted` — the numbers of fields come from their own values.
* `Tariff.Quote.make_eq_of_seesAlike` — alike submissions have the same outcome.
-/

set_option autoImplicit false

namespace Tariff

/-- Two submissions are alike for a template. -/
structure Template.SeesAlike (t : Template) (v w : List (String × Value)) : Prop where
  /-- a field that the formula may use has the same value in both -/
  used : ∀ f ∈ t.fields, f.givesNumber = true → submitted v f.key = submitted w f.key
  /-- another field that is required is left out in both or in neither -/
  required : ∀ f ∈ t.fields, f.givesNumber = false → f.required = true →
    (submitted v f.key).isBlank = (submitted w f.key).isBlank

variable {t : Template} {v w extra : List (String × Value)} {f : Field} {quantity : Value}
  {fields : List Field} {bound : List (String × Float)}

/-! ### Alike submissions -/

/-- The fields that the formula may use are those that give a number. -/
lemma Template.mem_variableFields_iff :
    f ∈ t.variableFields ↔ f ∈ t.fields ∧ f.givesNumber = true := by
  rw [variableFields, Field.inDisplayOrder, List.mem_mergeSort, List.mem_filter]

/-- Names that no field has make no difference to what is submitted for the fields. -/
lemma submitted_foldl_assign (h : ∀ m ∈ extra, m.1 ≠ f.key) :
    submitted (extra.foldl (fun ms m => assign m.1 m.2 ms) w) f.key = submitted w f.key := by
  rw [submitted, submitted, lookup?_foldl_assign h]

/-- A submission with further names that no field has is alike. -/
lemma Template.SeesAlike.foldl_assign (h : t.SeesAlike v w)
    (hextra : ∀ m ∈ extra, ∀ f ∈ t.fields, m.1 ≠ f.key) :
    t.SeesAlike v (extra.foldl (fun ms m => assign m.1 m.2 ms) w) where
  used f hf hnumber := by
    rw [submitted_foldl_assign fun m hm => hextra m hm f hf]
    exact h.used f hf hnumber
  required f hf hnumber hrequired := by
    rw [submitted_foldl_assign fun m hm => hextra m hm f hf]
    exact h.required f hf hnumber hrequired

/-! ### The stages that look at what is submitted -/

/-- A required field is left out in both of two alike submissions or in neither. -/
lemma Template.SeesAlike.isBlank_eq (h : t.SeesAlike v w) (hf : f ∈ t.fields)
    (hrequired : f.required = true) :
    (submitted v f.key).isBlank = (submitted w f.key).isBlank := by
  cases hnumber : f.givesNumber with
  | true => rw [h.used f hf hnumber]
  | false => exact h.required f hf hnumber hrequired

/-- **Alike submissions lack the same fields.** -/
lemma Quote.missingField?_eq_of_seesAlike (h : t.SeesAlike v w) :
    missingField? t.fields v = missingField? t.fields w := by
  rw [missingField?, missingField?, ← List.head?_filter, ← List.head?_filter]
  congr 2
  refine List.filter_congr fun f hf => ?_
  cases hrequired : f.required with
  | true => rw [h.isBlank_eq hf hrequired]
  | false => simp

/-- **The numbers of fields come from their own values.** -/
lemma bindFields_eq_of_submitted (h : ∀ f ∈ fields, submitted v f.key = submitted w f.key) :
    bindFields v quantity bound fields = bindFields w quantity bound fields := by
  induction fields generalizing bound with
  | nil => rfl
  | cons f fields ih =>
    obtain ⟨hf, hfields⟩ := List.forall_mem_cons.1 h
    rw [bindFields, bindFields, hf]
    congr 1
    funext value
    exact ih hfields

/-- Alike submissions give the same numbers to the formula. -/
lemma Template.SeesAlike.bind_eq (h : t.SeesAlike v w) : t.bind v quantity = t.bind w quantity :=
  bindFields_eq_of_submitted fun f hf =>
    h.used f (mem_variableFields_iff.1 hf).1 (mem_variableFields_iff.1 hf).2

namespace Quote

variable {settings : Settings} {r : Request}

/-- Where the same fields are missing and the formula gets the same numbers, the outcome is the
same: no other stage looks at what is submitted. -/
lemma make_eq_of_bind_eq (hmissing : missingField? t.fields w = missingField? t.fields r.values)
    (hbind : ∀ n, t.bind w (.int n) = t.bind r.values (.int n)) :
    make settings (some t) { r with values := w } = make settings (some t) r := by
  have hafter : ∀ n,
      afterCheck settings t { r with values := w } n = afterCheck settings t r n := by
    intro n
    rw [afterCheck, afterCheck, hbind]
    rfl
  rw [make_eq, make_eq]
  simp only [hmissing, hafter]

/-- **Alike submissions have the same outcome**, be it a quote or a failure. -/
theorem make_eq_of_seesAlike (h : t.SeesAlike r.values w) :
    make settings (some t) { r with values := w } = make settings (some t) r ∧
    ∀ extra : List (String × Value), (∀ m ∈ extra, ∀ f ∈ t.fields, m.1 ≠ f.key) →
      make settings (some t)
          { r with values := extra.foldl (fun ms m => assign m.1 m.2 ms) w } =
        make settings (some t) r := by
  have hsame : ∀ w, t.SeesAlike r.values w →
      make settings (some t) { r with values := w } = make settings (some t) r := fun w h =>
    make_eq_of_bind_eq (missingField?_eq_of_seesAlike h).symm fun n => h.bind_eq.symm
  exact ⟨hsame w h, fun extra hextra => hsame _ (h.foldl_assign hextra)⟩

/-- A template with a field for the formula and one for a text that is required. -/
def engraved : Template :=
  { oneField with
    fields := oneField.fields ++ [⟨"note", .text, "", true, false, [], 1⟩] }

/-- A request for three pieces with values for the two fields. -/
def threeEngraved : Request :=
  ⟨[("x", .int 2), ("note", .text "A")], .int 3, 10.0, true⟩

/-- The values with another text, and with a base price of the customer's own. -/
def crafted : List (String × Value) :=
  [("base_price", .int 0), ("note", .text "B"), ("x", .int 2)]

/-- Neither another text nor a base price and a quantity among the values make a difference. -/
theorem make_eq_of_seesAlike_engraved :
    engraved.SeesAlike threeEngraved.values crafted ∧
      make (.standard "") (some engraved) { threeEngraved with values := crafted } =
        make (.standard "") (some engraved) threeEngraved ∧
      make (.standard "") (some engraved)
          { threeEngraved with values := crafted ++ [("quantity", .int 1)] } =
        make (.standard "") (some engraved) threeEngraved := by
  have halike : engraved.SeesAlike threeEngraved.values crafted := by
    constructor
    · simp [engraved, oneField, Field.givesNumber, FieldType.isNumeric, submitted, lookup?,
        threeEngraved, crafted]
    · simp only [engraved, oneField, List.cons_append, List.nil_append, List.forall_mem_cons]
      exact ⟨by decide +kernel, by decide +kernel, by simp⟩
  have hundeclared : ∀ m ∈ [("quantity", Value.int 1)], ∀ f ∈ engraved.fields, m.1 ≠ f.key := by
    simp only [engraved, oneField, List.cons_append, List.nil_append, List.forall_mem_cons]
    exact ⟨⟨by decide, by decide, by simp⟩, by simp⟩
  have happend : [("quantity", Value.int 1)].foldl (fun ms m => assign m.1 m.2 ms) crafted =
      crafted ++ [("quantity", .int 1)] := rfl
  rw [← happend]
  exact ⟨halike, (make_eq_of_seesAlike (r := threeEngraved) halike).1,
    (make_eq_of_seesAlike (r := threeEngraved) halike).2 _ hundeclared⟩

end Quote

end Tariff
