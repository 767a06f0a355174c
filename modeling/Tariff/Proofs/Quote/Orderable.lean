import Tariff.Proofs.Catalog
import Tariff.Proofs.Number.Order
import Tariff.Proofs.Quote.Amounts

/-!
# Templates that can be ordered

A template is checked before it is saved, and its limits and its express option are looked at again
when it is ordered. The check makes sure of a quantity for each template but one whose greatest
quantity is below one, and of the express option but for a multiplier that is not a number: such a
multiplier is not at most one, and not above one either.

## Main results

* `Tariff.Quote.exists_accepted_iff` — when there is a quantity that is accepted.
* `Tariff.Quote.one_lt_expressMultiplier_iff` — when the express option makes the price higher.
* `Tariff.Quote.orderable_of_isValid` — which templates that pass the check can be ordered.
* `Tariff.Quote.not_orderable_of_isValid` — templates that pass the check and cannot.
-/

set_option autoImplicit false

namespace Tariff

open Tariff.Number

namespace Quote

variable {t : Template} {m : Float}

/-! ### Quantities -/

/-- With limits that pass the check there is a quantity that is accepted iff the greatest one, where
there is one, is at least one. -/
lemma exists_accepted_iff
    (h : ∀ least ∈ t.minQuantity, 1 ≤ least ∧ ∀ most ∈ t.maxQuantity, least ≤ most) :
    (∃ n, 1 ≤ n ∧ acceptQuantity t (.int n) = .ok n) ↔ ∀ most ∈ t.maxQuantity, 1 ≤ most := by
  constructor
  · rintro ⟨n, hone, hn⟩ most hm
    obtain ⟨-, -, -, hmost⟩ := acceptQuantity_eq_ok_iff.1 hn
    exact hone.trans (hmost most hm)
  · intro hmost
    -- the least quantity will do, and one piece where there is none
    cases hleast : t.minQuantity with
    | none =>
      refine ⟨1, le_rfl, acceptQuantity_eq_ok_iff.2 ⟨rfl, le_rfl, ?_, hmost⟩⟩
      simp [hleast]
    | some least =>
      obtain ⟨hone, hbelow⟩ := h least hleast
      refine ⟨least, hone, acceptQuantity_eq_ok_iff.2 ⟨rfl, hone, ?_, hbelow⟩⟩
      simp [hleast]

/-! ### The express option -/

/-- The multiplier of an express option that passes the check is the one that is given. -/
lemma expressMultiplier_eq (hm : t.expressMultiplier = some m) (h : ¬m ≤ 1.0) :
    expressMultiplier t = m := by
  have hzero : (m == 0.0) = false := by
    by_contra hne
    have hbeq : (m == 0.0) = true := by simpa using hne
    obtain ⟨hnan, hnan'⟩ := isNaN_eq_false_of_beq hbeq
    have hone : place 0.0 ≤ place 1.0 := by decide +kernel
    rw [le_iff hnan (by decide +kernel), (beq_iff hnan hnan').1 hbeq] at h
    exact h hone
  rw [expressMultiplier, hm]
  simp [hzero]

/-- An express option that passes the check makes the price higher iff its multiplier is a
number. -/
lemma one_lt_expressMultiplier_iff (hm : t.expressMultiplier = some m) (h : ¬m ≤ 1.0) :
    1.0 < expressMultiplier t ↔ m.isNaN = false := by
  rw [expressMultiplier_eq hm h]
  constructor
  · intro hlt
    exact (isNaN_eq_false_of_lt hlt).2
  · intro hnan
    have hone : (1.0 : Float).isNaN = false := by decide +kernel
    rw [lt_iff hone hnan]
    rw [le_iff hnan hone] at h
    exact not_le.1 h

section

variable {settings : Settings} {r : Request} {q : Quote}

/-- The express option of a quote, and the warnings about it. -/
lemma express_of_make (h : make settings (some t) r = .ok q) :
    q.isExpress = takesExpress t r.wantsExpress ∧
      q.warnings = expressWarnings t r.wantsExpress q.isExpress ∧
      (t.hasExpressOption = true → ∃ e ∈ q.express, e.multiplier = expressMultiplier t) := by
  obtain ⟨n, known, x, -, h⟩ := make_eq_ok_iff.1 h
  obtain ⟨count, a, text, -, -, -, -, -, rfl⟩ := ofUnitPrice_eq_ok_iff.1 h
  refine ⟨rfl, rfl, fun hoffered => ⟨_, if_pos hoffered, rfl⟩⟩

/-- An express option that is wanted and offered is taken iff it makes the price higher. -/
lemma takesExpress_iff (hwanted : r.wantsExpress = true) (hoffered : t.hasExpressOption = true) :
    takesExpress t r.wantsExpress = true ↔ 1.0 < expressMultiplier t := by
  simp [takesExpress, hwanted, hoffered]

/-- There is no warning about an express option that is wanted and offered iff it is taken. -/
lemma expressWarnings_eq_nil_iff {taken : Bool} (hwanted : r.wantsExpress = true)
    (hoffered : t.hasExpressOption = true) :
    expressWarnings t r.wantsExpress taken = [] ↔ taken = true := by
  cases taken <;> simp [expressWarnings, hwanted, hoffered]

end

/-! ### Templates that pass the check -/

/-- **Which templates that pass the check can be ordered.** There is a quantity of at least one that
is accepted iff the greatest quantity of the template, where there is one, is at least one. A
template with an express option has a multiplier for it. Every quote with that option wanted names
the multiplier; the option is taken iff the multiplier is a number, and there is no warning iff it
is one. -/
theorem orderable_of_isValid {limits : Formula.Limits} {c : Catalog}
    (h : (c.check limits t).isValid = true) :
    ((∃ n, 1 ≤ n ∧ acceptQuantity t (.int n) = .ok n) ↔ ∀ most ∈ t.maxQuantity, 1 ≤ most) ∧
    (t.hasExpressOption = true → ∃ m, t.expressMultiplier = some m ∧
      ∀ settings r q, r.wantsExpress = true → make settings (some t) r = .ok q →
        (∃ e ∈ q.express, e.multiplier = m) ∧ (q.isExpress = true ↔ m.isNaN = false) ∧
          (q.warnings = [] ↔ m.isNaN = false)) := by
  have hfit := Template.isValid_iff.1 h
  refine ⟨exists_accepted_iff hfit.quantities, fun hoffered => ?_⟩
  obtain ⟨m, hm, hgreater⟩ := hfit.express hoffered
  refine ⟨m, hm, fun settings r q hwanted hq => ?_⟩
  obtain ⟨htaken, hwarnings, hnamed⟩ := express_of_make hq
  have hiff : q.isExpress = true ↔ m.isNaN = false := by
    rw [htaken, takesExpress_iff hwanted hoffered, one_lt_expressMultiplier_iff hm hgreater]
  refine ⟨?_, hiff, ?_⟩
  · rw [← expressMultiplier_eq hm hgreater]
    exact hnamed hoffered
  · rw [hwarnings, expressWarnings_eq_nil_iff hwanted hoffered, hiff]

/-- A template with a greatest quantity and an express option. -/
def offered (most : Option Int) (multiplier : Float) : Template :=
  { thirds with name := "Thirds", maxQuantity := most, expressMultiplier := some multiplier }

/-- Up to five pieces at one and a half times the price can be ordered. -/
theorem orderable_of_isValid_five :
    ((⟨[]⟩ : Catalog).check .standard (offered (some 5) 1.5)).isValid = true ∧
      (∃ n, 1 ≤ n ∧ acceptQuantity (offered (some 5) 1.5) (.int n) = .ok n) ∧
      ∃ q, make (.standard "") (some (offered (some 5) 1.5)) threePieces = .ok q ∧
        q.isExpress = true ∧ q.warnings = [] := by
  have hvalid : ((⟨[]⟩ : Catalog).check .standard (offered (some 5) 1.5)).isValid = true := by
    decide +kernel
  have hmade : (make (.standard "") (some (offered (some 5) 1.5)) threePieces).toOption.isSome =
      true := by decide +kernel
  obtain ⟨q, hq⟩ := Option.isSome_iff_exists.1 hmade
  rw [toOption_eq_some_iff] at hq
  obtain ⟨haccepted, hexpress⟩ := orderable_of_isValid hvalid
  obtain ⟨m, hm, hquotes⟩ := hexpress rfl
  obtain rfl : 1.5 = m := Option.some.inj hm
  obtain ⟨-, htaken, hwarnings⟩ := hquotes _ _ q rfl hq
  have hnumber : (1.5 : Float).isNaN = false := by decide +kernel
  refine ⟨hvalid, haccepted.2 fun most hmost => ?_, q, hq, htaken.2 hnumber, hwarnings.2 hnumber⟩
  obtain rfl := Option.mem_some_iff.1 hmost
  decide

/-- **Templates that pass the check and cannot be ordered**: one of which nothing may be ordered,
and one whose express option is never taken, since its multiplier is not a number. -/
theorem not_orderable_of_isValid :
    (((⟨[]⟩ : Catalog).check .standard (offered (some 0) 1.5)).isValid = true ∧
      ¬∃ n, 1 ≤ n ∧ acceptQuantity (offered (some 0) 1.5) (.int n) = .ok n) ∧
    ((⟨[]⟩ : Catalog).check .standard (offered none (0.0 / 0.0))).isValid = true ∧
      (offered none (0.0 / 0.0)).hasExpressOption = true ∧ threePieces.wantsExpress = true ∧
      ∃ q, make (.standard "") (some (offered none (0.0 / 0.0))) threePieces = .ok q ∧
        q.isExpress = false ∧
        q.warnings = ["Template t has no valid express multiplier; normal price used"] := by
  have hq : (make (.standard "") (some (offered none (0.0 / 0.0))) threePieces).toOption.map
      (fun q => (q.isExpress, q.warnings)) =
        some (false, ["Template t has no valid express multiplier; normal price used"]) := by
    decide +kernel
  obtain ⟨q, hmake, hvalues⟩ := Option.map_eq_some_iff.1 hq
  obtain ⟨hexpress, hwarnings⟩ := Prod.mk.inj hvalues
  refine ⟨⟨by decide +kernel, ?_⟩, by decide +kernel, rfl, rfl, q,
    toOption_eq_some_iff.1 hmake, hexpress, hwarnings⟩
  rintro ⟨n, hone, hn⟩
  obtain ⟨-, -, -, hmost⟩ := acceptQuantity_eq_ok_iff.1 hn
  exact absurd (hone.trans (hmost 0 rfl)) (by decide)

end Quote

end Tariff
