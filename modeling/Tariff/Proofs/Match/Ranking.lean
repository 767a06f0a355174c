import Tariff.Proofs.Match.Candidates
import Tariff.Proofs.Moment
import Tariff.Proofs.Number.Order
import Tariff.Proofs.Sorting

/-!
# The ranking of templates

Templates are ranked by their scopes, then by their priorities, then by their creation, where one
without date is the oldest. The three together are a key in a linear order, because the seconds of
a moment are a finite double and so the order of the dates is one of numbers.

## Main definitions

* `Tariff.Template.Beats`, `Tariff.Template.Ties` — one template wins, or none does.
* `Tariff.Template.key` — the key of a template.

## Main results

* `Tariff.Template.beats_iff`, `Tariff.Template.ties_iff` — the ranking is that of the keys.
* `Tariff.Match.mergeSort_map_of` — matches are sorted by the keys of their templates.
-/

set_option autoImplicit false

namespace Tariff

open Tariff.Number

/-! ### Templates -/

namespace Template

/-- Whether one template was created after another one. One without date is the oldest. -/
def isNewer (a b : Template) : Bool :=
  match a.createdAt, b.createdAt with
  | some _, some _ => b.created < a.created
  | some _, none => true
  | none, _ => false

/-- Whether two templates were created at the same time. -/
def isCoeval (a b : Template) : Bool :=
  match a.createdAt, b.createdAt with
  | some _, some _ => a.created == b.created
  | none, none => true
  | _, _ => false

/-- Whether one template wins over another one. -/
def Beats (a b : Template) : Prop :=
  b.scope.rank < a.scope.rank ∨
    a.scope.rank = b.scope.rank ∧
      (b.priority < a.priority ∨ a.priority = b.priority ∧ a.isNewer b = true)

/-- Whether neither of two templates wins over the other one. -/
def Ties (a b : Template) : Prop :=
  a.scope.rank = b.scope.rank ∧ a.priority = b.priority ∧ a.isCoeval b = true

instance (a b : Template) : Decidable (a.Ties b) :=
  inferInstanceAs (Decidable (_ ∧ _ ∧ _))

/-- The key of a template: its scope, its priority and its creation. -/
def key (t : Template) : ℕ ×ₗ ℤ ×ₗ ℤ ×ₗ ℤ ×ₗ ℤ :=
  toLex (t.scope.rank, toLex (t.priority, place t.created))

section

variable {a b t : Template}

/-- A template without date was created before all numbers. -/
lemma created_of_none (h : t.createdAt = none) : t.created = -1.0 / 0.0 := by
  rw [created, Match.createdSeconds, h]
  rfl

/-- A template with a date was created at a finite number of seconds. -/
lemma isFinite_created {moment : Moment} (ht : t.HasTime) (h : t.createdAt = some moment) :
    t.created.isFinite = true := by
  obtain ⟨x, hx⟩ := ht
  have hcreated := created_eq hx
  rw [Match.createdSeconds, h] at hx
  rw [hcreated]
  exact moment.isFinite_timestamp hx

/-- The creation of a template is a number. -/
lemma isNaN_created (ht : t.HasTime) : t.created.isNaN = false := by
  cases h : t.createdAt with
  | none =>
    rw [created_of_none h]
    decide +kernel
  | some moment => exact isNaN_eq_false_of_isFinite (isFinite_created ht h)

/-- What was created later has a later place. -/
lemma isNewer_iff (ha : a.HasTime) (hb : b.HasTime) :
    a.isNewer b = true ↔ place b.created < place a.created := by
  rw [isNewer]
  cases hda : a.createdAt with
  | none =>
    rw [created_of_none hda]
    cases hdb : b.createdAt with
    | none => simp [created_of_none hdb]
    | some _ => simpa using (place_negInfinity_lt (isFinite_created hb hdb)).le
  | some _ =>
    cases hdb : b.createdAt with
    | none => simpa [created_of_none hdb] using place_negInfinity_lt (isFinite_created ha hda)
    | some _ => simpa using lt_iff (isNaN_created hb) (isNaN_created ha)

/-- What was created at one time has one place. -/
lemma isCoeval_iff (ha : a.HasTime) (hb : b.HasTime) :
    a.isCoeval b = true ↔ place a.created = place b.created := by
  rw [isCoeval]
  cases hda : a.createdAt with
  | none =>
    rw [created_of_none hda]
    cases hdb : b.createdAt with
    | none => simp [created_of_none hdb]
    | some _ => simpa using (place_negInfinity_lt (isFinite_created hb hdb)).ne
  | some _ =>
    cases hdb : b.createdAt with
    | none => simpa [created_of_none hdb] using (place_negInfinity_lt (isFinite_created ha hda)).ne'
    | some _ => simpa using beq_iff (isNaN_created ha) (isNaN_created hb)

/-- One template wins over another one iff its key is greater. -/
lemma beats_iff (ha : a.HasTime) (hb : b.HasTime) : a.Beats b ↔ b.key < a.key := by
  rw [Beats, isNewer_iff ha hb, key, key, Prod.Lex.toLex_lt_toLex, Prod.Lex.toLex_lt_toLex]
  simp only [eq_comm]

/-- Neither of two templates wins iff they have one key. -/
lemma ties_iff (ha : a.HasTime) (hb : b.HasTime) : a.Ties b ↔ a.key = b.key := by
  rw [Ties, isCoeval_iff ha hb, key, key]
  simp

/-- A template wins or ties iff its key is at least as great. -/
lemma beats_or_ties_iff (ha : a.HasTime) (hb : b.HasTime) :
    a.Beats b ∨ a.Ties b ↔ b.key ≤ a.key := by
  rw [beats_iff ha hb, ties_iff ha hb, le_iff_lt_or_eq, eq_comm]

end

end Template

/-! ### Matches -/

namespace Match

variable {p : Product} {a b : Template} {ts : List Template}

/-- Matches are compared by the keys of their templates. -/
lemma isAtLeast_of (ha : a.HasTime) (hb : b.HasTime) :
    isAtLeast (.of p a) (.of p b) = decide (b.key ≤ a.key) := by
  rw [Bool.eq_iff_iff, decide_eq_true_eq, Template.key, Template.key, Prod.Lex.toLex_le_toLex,
    Prod.Lex.toLex_le_toLex, ← le_iff (Template.isNaN_created hb) (Template.isNaN_created ha)]
  change (if a.scope.rank ≠ b.scope.rank then decide (b.scope.rank < a.scope.rank)
    else if a.priority ≠ b.priority then decide (b.priority < a.priority)
    else decide (b.created ≤ a.created)) = true ↔ _
  by_cases hrank : a.scope.rank = b.scope.rank
  · by_cases hpriority : a.priority = b.priority
    · rw [if_neg (not_not.2 hrank), if_neg (not_not.2 hpriority), decide_eq_true_eq]
      simp [hrank, hpriority]
    · rw [if_neg (not_not.2 hrank), if_pos hpriority, decide_eq_true_eq]
      simp [hrank, Ne.symm hpriority]
  · rw [if_pos hrank, decide_eq_true_eq]
    simp [Ne.symm hrank]

/-- Matches are sorted by the keys of their templates. -/
lemma mergeSort_map_of (h : ∀ t ∈ ts, t.HasTime) :
    (ts.map (Match.of p)).mergeSort isAtLeast = (sortedBy Template.key ts).map (Match.of p) :=
  (List.map_mergeSort fun a ha b hb => (isAtLeast_of (h a ha) (h b hb)).symm).symm

end Match

end Tariff
