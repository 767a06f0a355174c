import Tariff.Catalog
import Tariff.Proofs.Tiers

/-!
# What the check of a template establishes

The check of a template lists the problems of its parts. A template passes iff no part has any, and
of each part this is a condition on what the template holds.

## Main definitions

* `Tariff.Template.IsFit` — what holds of the templates that pass the check.

## Main results

* `Tariff.keyProblems_eq_nil_iff`, `Tariff.Template.scopeProblems_eq_nil_iff`,
  `Tariff.Template.expressProblems_eq_nil_iff`, `Tariff.Template.quantityProblems_eq_nil_iff` — the
  parts that have no problems.
* `Tariff.Template.isValid_iff` — the templates that pass the check.
-/

set_option autoImplicit false

namespace Tariff

open Tariff.Text

variable {fields : List Field} {seen : List String}

/-- The keys of fields have no problems iff each is a key of a field and none is repeated. -/
lemma keyProblems_eq_nil_iff : keyProblems seen fields = [] ↔
    (∀ f ∈ fields, isFieldKey f.key = true ∧ f.key ∉ seen) ∧ (fields.map (·.key)).Nodup := by
  induction fields generalizing seen with
  | nil => simp [keyProblems]
  | cons f fields ih =>
    rw [keyProblems, List.append_eq_nil_iff, List.append_eq_nil_iff, ih, List.forall_mem_cons,
      List.map_cons, List.nodup_cons]
    simp only [ite_eq_left_iff, ite_eq_right_iff, List.cons_ne_nil, imp_false, Bool.not_eq_true,
      Bool.not_eq_false, List.contains_eq_mem, decide_eq_true_eq, List.mem_cons, not_or,
      List.mem_map, not_exists, not_and]
    constructor
    · rintro ⟨⟨hkey, hseen⟩, hfields, hnodup⟩
      exact ⟨⟨⟨hkey, hseen⟩, fun g hg => ⟨(hfields g hg).1, (hfields g hg).2.2⟩⟩,
        fun g hg => (hfields g hg).2.1, hnodup⟩
    · rintro ⟨⟨⟨hkey, hseen⟩, hfields⟩, hne, hnodup⟩
      exact ⟨⟨hkey, hseen⟩, fun g hg => ⟨(hfields g hg).1, hne g hg, (hfields g hg).2⟩, hnodup⟩

namespace Template

variable {t : Template} {p : Problem} {b : Bool} {limits : Formula.Limits} {c : Catalog}

/-- There is no problem iff its condition does not hold. -/
lemma problemIf_eq_nil_iff : problemIf b p = [] ↔ b = false := by
  cases b <;> simp [problemIf]

/-- A scope passes the check iff it has values except where it is for all products. -/
lemma scopeProblems_eq_nil_iff :
    t.scopeProblems = [] ↔ (t.scope = .global ↔ t.scopeValues = []) := by
  rw [scopeProblems, List.append_eq_nil_iff, problemIf_eq_nil_iff, problemIf_eq_nil_iff]
  by_cases hscope : t.scope = .global
  · simp [hscope]
  · simp [hscope]

/-- An express option passes the check iff it has a multiplier that is not at most one. -/
lemma expressProblems_eq_nil_iff : t.expressProblems = [] ↔
    (t.hasExpressOption = true → ∃ m, t.expressMultiplier = some m ∧ ¬m ≤ 1.0) := by
  rw [expressProblems]
  cases t.hasExpressOption with
  | false => simp
  | true =>
    cases t.expressMultiplier with
    | none => simp
    | some m => simp [problemIf_eq_nil_iff]

/-- Limits pass the check iff the least quantity, where there is one, is at least one and at most
the greatest one. -/
lemma quantityProblems_eq_nil_iff : t.quantityProblems = [] ↔
    ∀ least ∈ t.minQuantity, 1 ≤ least ∧ ∀ most ∈ t.maxQuantity, least ≤ most := by
  rw [quantityProblems, List.append_eq_nil_iff, problemIf_eq_nil_iff, problemIf_eq_nil_iff]
  cases t.minQuantity with
  | none => simp
  | some least => cases t.maxQuantity <;> simp

/-- What holds of the templates that pass the check. -/
structure IsFit (limits : Formula.Limits) (t : Template) : Prop where
  /-- the name holds something -/
  name : isBlankText t.name = false
  /-- the keys are keys of fields -/
  keys : ∀ f ∈ t.fields, isFieldKey f.key = true
  /-- no two fields have one key -/
  nodup_keys : (t.fields.map (·.key)).Nodup
  /-- the formula passes its own check -/
  formula : (t.formulaReport limits).problems = []
  /-- there are values to match except where the template is for all products -/
  scope : t.scope = .global ↔ t.scopeValues = []
  /-- an express option has a multiplier that is not at most one -/
  express : t.hasExpressOption = true → ∃ m, t.expressMultiplier = some m ∧ ¬m ≤ 1.0
  /-- the least quantity is at least one and at most the greatest one -/
  quantities : ∀ least ∈ t.minQuantity, 1 ≤ least ∧ ∀ most ∈ t.maxQuantity, least ≤ most
  /-- each tier starts at no negative quantity, does not end before, and takes off some of the
  price or all of it -/
  tiers : ∀ u ∈ t.discountTiers,
    0 ≤ u.minimum ∧ u.IsProper ∧ 0.0 ≤ u.discount ∧ u.discount ≤ 100.0

/-- **The templates that pass the check** are those whose parts are all fit. -/
theorem isValid_iff : (c.check limits t).isValid = true ↔ t.IsFit limits := by
  have hproblems : (c.check limits t).isValid = true ↔ t.problems limits = [] := List.isEmpty_iff
  rw [hproblems]
  simp only [problems, List.append_eq_nil_iff, problemIf_eq_nil_iff, keyProblems_eq_nil_iff,
    List.map_eq_nil_iff, scopeProblems_eq_nil_iff, expressProblems_eq_nil_iff,
    quantityProblems_eq_nil_iff, Tier.tierProblems_eq_nil_iff, List.not_mem_nil, not_false_iff,
    and_true]
  constructor
  · rintro ⟨⟨⟨⟨⟨⟨hname, hkeys, hnodup⟩, hformula⟩, hscope⟩, hexpress⟩, hquantities⟩, htiers⟩
    exact ⟨hname, hkeys, hnodup, hformula, hscope, hexpress, hquantities, htiers⟩
  · rintro ⟨hname, hkeys, hnodup, hformula, hscope, hexpress, hquantities, htiers⟩
    exact ⟨⟨⟨⟨⟨⟨hname, hkeys, hnodup⟩, hformula⟩, hscope⟩, hexpress⟩, hquantities⟩, htiers⟩

end Template

end Tariff
