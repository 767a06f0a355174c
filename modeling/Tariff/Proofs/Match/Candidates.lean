import Mathlib.Tactic.Lemma
import Tariff.Match
import Tariff.Proofs.Outcome

/-!
# The templates that are for a product

Matching goes through the templates once and sorts what it has found. It fails only if it cannot
tell whether an active template is for the product, or when a template that is was created. If it
does not fail, it has found the active templates with a reason, each with its reason and date.

## Main definitions

* `Tariff.Template.isFor` — whether a template is active and has a reason to be for a product.
* `Tariff.Product.WellFormed` — the facts of a product are what they have to be.
* `Tariff.Match.of` — the match of a template that is for a product.

## Main results

* `Tariff.Match.candidates_eq_ok_iff` — the templates with their reasons.
* `Tariff.Match.all_eq_ok_iff` — the matches of a product.
* `Tariff.Template.exists_reasonFor` — the reasons for a well-formed product can be told.
-/

set_option autoImplicit false

namespace Tariff

/-- Whether a template is active and has a reason to be for a product. -/
def Template.isFor (t : Template) (p : Product) : Bool :=
  t.isActive && match t.reasonFor p with
    | .ok (some _) => true
    | _ => false

/-- Whether it can be told when a template was created; a template without date is the oldest. -/
def Template.HasTime (t : Template) : Prop :=
  ∃ x, Match.createdSeconds t = .ok x

/-- The creation of a template in seconds, where it can be told. -/
def Template.created (t : Template) : Float :=
  (Match.createdSeconds t).toOption.getD 0

/-- The reason why a template is for a product, where it is. -/
def Template.reason (t : Template) (p : Product) : Reason :=
  (t.reasonFor p).toOption.join.getD .global

/-- What was handed in as the facts of a product is what it has to be. -/
structure Product.WellFormed (p : Product) : Prop where
  id : ∃ v, p.id = .ok v
  vendor : ∃ v, p.vendor = .ok v
  tags : ∃ vs, p.tags = .ok vs
  collections : ∃ vs, p.collections = .ok vs

/-- The match of a template that is for a product. -/
def Match.of (p : Product) (t : Template) : Match :=
  ⟨t, t.reason p, t.created⟩

/-- An active template that says only which products it is for and when it was created. -/
def Template.bare (id : String) (scope : Scope) (values : List String)
    (createdAt : Option Moment) : Template where
  id := id
  name := id
  formula := none
  scope := scope
  scopeValues := values
  fields := []
  isActive := true
  description := none
  hasExpressOption := false
  expressMultiplier := none
  expressLabel := none
  normalLabel := none
  minQuantity := none
  maxQuantity := none
  minQuantityMessage := none
  maxQuantityMessage := none
  discountTiers := []
  priority := 0
  createdAt := createdAt

section

variable {t : Template} {ts : List Template} {p : Product} {r : Reason}

/-! ### One template -/

/-- A template is for a product iff it is active and has a reason. -/
lemma Template.isFor_iff :
    t.isFor p = true ↔ t.isActive = true ∧ ∃ r, t.reasonFor p = .ok (some r) := by
  rw [isFor, Bool.and_eq_true]
  refine and_congr_right fun _ => ?_
  rcases t.reasonFor p with e | _ | r <;> simp

/-- The creation of a template, if it can be told. -/
lemma Template.created_eq {x : Float} (h : Match.createdSeconds t = .ok x) : t.created = x := by
  rw [created, h]
  rfl

/-- The reason of a template that has one. -/
lemma Template.reason_eq (h : t.reasonFor p = .ok (some r)) : t.reason p = r := by
  rw [reason, h]
  rfl

/-- A template that is for a product is so for its reason. -/
lemma Template.reasonFor_eq (h : t.isFor p = true) : t.reasonFor p = .ok (some (t.reason p)) := by
  obtain ⟨-, r, hr⟩ := isFor_iff.1 h
  rw [reason_eq hr, hr]

/-- It can be told whether a template is for a well-formed product. -/
lemma Template.exists_reasonFor (hp : p.WellFormed) : ∃ r, t.reasonFor p = .ok r := by
  obtain ⟨⟨id, hid⟩, ⟨v, hvendor⟩, ⟨tags, htags⟩, ⟨collections, hcollections⟩⟩ := hp
  unfold Template.reasonFor
  cases t.scope with
  | global => exact ⟨_, rfl⟩
  | product =>
    simp only [hid]
    cases id <;> exact ⟨_, rfl⟩
  | collection => exact ⟨_, by simp only [hcollections]; rfl⟩
  | vendor =>
    simp only [hvendor]
    cases v <;> exact ⟨_, rfl⟩
  | tag => exact ⟨_, by simp only [htags]; rfl⟩

namespace Match

/-! ### All templates -/

/-- A template that is inactive, or has no reason, is left out. -/
lemma candidates_cons_of_none (h : t.isActive = false ∨ t.reasonFor p = .ok none) :
    candidates p (t :: ts) = candidates p ts := by
  rw [candidates]
  split
  · rename_i hactive
    rw [h.resolve_left (by simp [hactive])]
    cases candidates p ts <;> rfl
  · cases candidates p ts <;> rfl

/-- A template that is active comes with its reason. -/
lemma candidates_cons_of_some (hactive : t.isActive = true) (h : t.reasonFor p = .ok (some r)) :
    candidates p (t :: ts) = (candidates p ts).map ((t, r) :: ·) := by
  rw [candidates, if_pos hactive, h]
  cases candidates p ts <;> rfl

/-- If it cannot be told whether a template is for the product, there is no answer. -/
lemma candidates_cons_of_error {e : Fault} (hactive : t.isActive = true)
    (h : t.reasonFor p = .error e) : candidates p (t :: ts) = .error e := by
  rw [candidates, if_pos hactive, h]
  rfl

/-- **The templates that are for a product**, with their reasons.

**Proof sketch.** Induction on the templates: one that is inactive or has no reason is left out. -/
lemma candidates_eq_ok_iff {found : List (Template × Reason)} : candidates p ts = .ok found ↔
    (∀ t ∈ ts, t.isActive = true → ∃ r, t.reasonFor p = .ok r) ∧
      found = (ts.filter (·.isFor p)).map fun t => (t, t.reason p) := by
  induction ts generalizing found with
  | nil => exact ⟨fun h => ⟨by simp, (Except.ok.inj h).symm⟩, fun h => congrArg _ h.2.symm⟩
  | cons t ts ih =>
    rw [List.forall_mem_cons]
    cases hactive : t.isActive with
    | false =>
      have hfor : t.isFor p = false := by simp [Template.isFor, hactive]
      rw [candidates_cons_of_none (.inl hactive), ih, List.filter_cons_of_neg (by simp [hfor])]
      simp
    | true =>
      cases hreason : t.reasonFor p with
      | error e =>
        rw [candidates_cons_of_error hactive hreason]
        simp
      | ok r =>
        cases r with
        | none =>
          have hfor : t.isFor p = false := by simp [Template.isFor, hreason]
          rw [candidates_cons_of_none (.inr hreason), ih, List.filter_cons_of_neg (by simp [hfor])]
          simp
        | some r =>
          have hfor : t.isFor p = true := Template.isFor_iff.2 ⟨hactive, r, hreason⟩
          rw [candidates_cons_of_some hactive hreason, map_eq_ok, List.filter_cons,
            if_pos hfor, List.map_cons, Template.reason_eq hreason]
          constructor
          · rintro ⟨others, hothers, rfl⟩
            obtain ⟨hall, rfl⟩ := ih.1 hothers
            exact ⟨⟨fun _ => ⟨_, rfl⟩, hall⟩, rfl⟩
          · rintro ⟨⟨-, hall⟩, rfl⟩
            exact ⟨_, ih.2 ⟨hall, rfl⟩, rfl⟩

/-- A match has the creation of its template, where that can be told. -/
lemma date_eq_ok_iff {m : Match} :
    (do .ok (⟨t, r, ← createdSeconds t⟩ : Match)) = (.ok m : Except Fault Match) ↔
      t.HasTime ∧ m = ⟨t, r, t.created⟩ := by
  rw [bind_eq_ok, Template.HasTime, Template.created]
  cases createdSeconds t with
  | error e => simp
  | ok x => simp [Except.toOption, eq_comm]

/-- Templates with their reasons become matches if it can be told when all were created. -/
lemma mapM_date_eq_ok_iff {dated : List Match} :
    ((ts.map fun t => (t, t.reason p)).mapM fun (t, r) => do
        .ok (⟨t, r, ← createdSeconds t⟩ : Match)) = .ok dated ↔
      (∀ t ∈ ts, t.HasTime) ∧ dated = ts.map (Match.of p) := by
  rw [mapM_eq_ok_iff (g := fun c => ⟨c.1, c.2, c.1.created⟩)
    fun c m h => (date_eq_ok_iff.1 h).2.symm, List.forall_mem_map, List.map_map]
  simp only [date_eq_ok_iff, exists_and_left, exists_eq, and_true]
  rfl

/-- **The matches of a product.** There is an answer iff it can be told whether the active
templates are for the product and when those that are were created. It holds the matches of those
templates, sorted. -/
theorem all_eq_ok_iff {ms : List Match} : all ts p = .ok ms ↔
    (∀ t ∈ ts, t.isActive = true → ∃ r, t.reasonFor p = .ok r) ∧
    (∀ t ∈ ts, t.isFor p = true → t.HasTime) ∧
      ms = ((ts.filter (·.isFor p)).map (Match.of p)).mergeSort isAtLeast := by
  rw [all, bind_eq_ok]
  constructor
  · rintro ⟨found, hfound, h⟩
    obtain ⟨hreason, rfl⟩ := candidates_eq_ok_iff.1 hfound
    obtain ⟨dated, hdated, h⟩ := bind_eq_ok.1 h
    obtain ⟨htime, rfl⟩ := mapM_date_eq_ok_iff.1 hdated
    obtain rfl := Except.ok.inj h
    exact ⟨hreason, fun t ht hfor => htime t (List.mem_filter.2 ⟨ht, hfor⟩), rfl⟩
  · rintro ⟨hreason, htime, rfl⟩
    have hdated : ∀ t ∈ ts.filter (·.isFor p), t.HasTime := fun t ht =>
      htime t (List.mem_filter.1 ht).1 (List.mem_filter.1 ht).2
    exact ⟨_, candidates_eq_ok_iff.2 ⟨hreason, rfl⟩,
      bind_eq_ok.2 ⟨_, mapM_date_eq_ok_iff.2 ⟨hdated, rfl⟩, rfl⟩⟩

end Match

end

end Tariff
