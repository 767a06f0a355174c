import Mathlib.Data.List.Nodup
import Tariff.Proofs.Match.Candidates
import Tariff.Proofs.Members
import Tariff.Review

/-!
# What an audit shows

The reports of an audit are kept by the ids of the templates. Each id that comes up has one report,
that of its last template, so that the problems of a template do not show if another template of its
id comes after it. Where no id is repeated, all templates with problems are shown.

## Main definitions

* `Tariff.Catalog.last?` — the last template of an id.
* `Tariff.Template.isBroken` — whether a template has problems.

## Main results

* `Tariff.Catalog.checkAll_eq` — the reports of an audit.
* `Tariff.Review.invalid_eq` — the templates that a review shows.
* `Tariff.Review.mem_invalid_iff` — which templates with problems are shown.
* `Tariff.Review.invalid_eq_filter` — all of them, if no id is repeated.
* `Tariff.Review.shows_last_broken` — what a review shows, in full.
-/

set_option autoImplicit false

namespace Tariff

variable {limits : Formula.Limits}

/-- Whether something makes a template unfit to be saved. -/
def Template.isBroken (limits : Formula.Limits) (t : Template) : Bool :=
  !(t.problems limits).isEmpty

/-! ### Reports -/

namespace Catalog

variable {c : Catalog} {id : String} {t : Template}

/-- The last template of an id. -/
def last? (c : Catalog) (id : String) : Option Template :=
  (c.templates.filter (·.id == id)).getLast?

/-- The last template of an id is a template of the catalog with that id. -/
lemma mem_of_last? (h : c.last? id = some t) : t ∈ c.templates ∧ t.id = id := by
  simpa using List.mem_filter.1 (List.mem_of_getLast? h)

/-- If no id is repeated, each template is the last one of its id. -/
lemma last?_of_nodup (hids : (c.templates.map (·.id)).Nodup) (h : t ∈ c.templates) :
    c.last? t.id = some t := by
  have hmem : t ∈ c.templates.filter (·.id == t.id) := List.mem_filter.2 ⟨h, by simp⟩
  obtain ⟨u, hu⟩ := Option.isSome_iff_exists.1 (List.getLast?_isSome.2 (List.ne_nil_of_mem hmem))
  have hu : c.last? t.id = some u := hu
  obtain ⟨humem, hid⟩ := mem_of_last? hu
  rw [hu, List.inj_on_of_nodup_map hids humem h hid]

/-- What is given for each template has its last value at the last template. -/
lemma latest?_map {α : Type} (f : Template → α) :
    latest? id (c.templates.map fun t => (t.id, f t)) = (c.last? id).map f := by
  rw [latest?, last?, List.filter_map, List.getLast?_map, Option.map_map]
  rfl

/-- An audit has one report for each id, in the order in which the ids come up first: that of the
last template of the id. -/
theorem checkAll_eq (limits : Formula.Limits) (c : Catalog) :
    c.checkAll limits = (c.templates.map (·.id)).eraseDups.filterMap fun id =>
      (c.last? id).map fun t => (id, c.check limits t) := by
  calc c.checkAll limits
      = (c.templates.map fun t => (t.id, c.check limits t)).foldl
          (fun ms m => assign m.1 m.2 ms) [] := by rw [checkAll, List.foldl_map]
    _ = _ := by
      rw [foldl_assign_eq, List.map_map]
      simp only [latest?_map, Option.map_map]
      rfl

end Catalog

/-! ### Reviews -/

namespace Review

variable {s : Snapshot} {r : Review}

/-- The reports of a review are those of an audit of its templates. -/
lemma reports_of_ofSnapshot? (h : ofSnapshot? limits s = some r) :
    r.reports = Catalog.checkAll limits ⟨s.templates⟩ := by
  rw [ofSnapshot?] at h
  split at h
  · cases h
  · obtain rfl := Option.some.inj h
    rfl

/-- A review shows each id whose last template is broken, with the problems of that template. -/
theorem invalid_eq (h : ofSnapshot? limits s = some r) :
    r.invalid = (s.templates.map (·.id)).eraseDups.filterMap fun id =>
      ((Catalog.last? ⟨s.templates⟩ id).filter (·.isBroken limits)).map fun t =>
        (id, t.problems limits) := by
  rw [invalid, reports_of_ofSnapshot? h, Catalog.checkAll_eq, List.filter_filterMap,
    List.map_filterMap]
  refine List.filterMap_congr fun id _ => ?_
  cases Catalog.last? ⟨s.templates⟩ id with
  | none => rfl
  | some t =>
    have hvalid : (!(Catalog.check limits ⟨s.templates⟩ t).isValid) = t.isBroken limits := rfl
    simp only [Option.map_some, Option.filter_some, hvalid]
    cases t.isBroken limits <;> rfl

/-- A review shows problems under an id iff they are those of the last template of the id. -/
theorem mem_invalid_iff (h : ofSnapshot? limits s = some r) {id : String}
    {ps : List Template.Problem} :
    (id, ps) ∈ r.invalid ↔
      ps ≠ [] ∧ ∃ t, Catalog.last? ⟨s.templates⟩ id = some t ∧ t.problems limits = ps := by
  simp only [invalid_eq h, List.mem_filterMap, List.mem_eraseDups, Option.map_eq_some_iff,
    Option.filter_eq_some_iff, Prod.mk.injEq]
  constructor
  · rintro ⟨id, -, t, ⟨hlast, hbroken⟩, rfl, rfl⟩
    exact ⟨by simpa [Template.isBroken] using hbroken, t, hlast, rfl⟩
  · rintro ⟨hne, t, hlast, rfl⟩
    obtain ⟨hmem, rfl⟩ := Catalog.mem_of_last? hlast
    exact ⟨t.id, List.mem_map_of_mem hmem, t,
      ⟨hlast, by simpa [Template.isBroken] using hne⟩, rfl, rfl⟩

/-- A broken template is shown with its problems iff the last template of its id has the same
problems. -/
theorem mem_invalid_self_iff (h : ofSnapshot? limits s = some r) {t : Template}
    (ht : t.isBroken limits = true) :
    (t.id, t.problems limits) ∈ r.invalid ↔
      ∃ u, Catalog.last? ⟨s.templates⟩ t.id = some u ∧ u.problems limits = t.problems limits := by
  have hne : t.problems limits ≠ [] := by simpa [Template.isBroken] using ht
  rw [mem_invalid_iff h]
  exact and_iff_right hne

/-- As many templates are shown as there are ids whose last template is broken. -/
theorem length_invalid (h : ofSnapshot? limits s = some r) :
    r.invalid.length = (s.templates.map (·.id)).eraseDups.countP fun id =>
      (Catalog.last? ⟨s.templates⟩ id).any (·.isBroken limits) := by
  rw [invalid_eq h, List.length_filterMap_eq_countP]
  refine List.countP_congr fun id _ => ?_
  cases Catalog.last? ⟨s.templates⟩ id with
  | none => rfl
  | some t => cases hbroken : t.isBroken limits <;> simp [hbroken]

/-- If no id is repeated, all broken templates are shown, in their order. -/
theorem invalid_eq_filter (h : ofSnapshot? limits s = some r)
    (hids : (s.templates.map (·.id)).Nodup) :
    r.invalid =
      (s.templates.filter (·.isBroken limits)).map fun t => (t.id, t.problems limits) := by
  rw [invalid_eq h, eraseDups_of_nodup hids, List.filterMap_map, ← List.filterMap_eq_filter,
    List.map_filterMap]
  refine List.filterMap_congr fun t ht => ?_
  rw [Function.comp_apply, Catalog.last?_of_nodup hids ht]
  cases hbroken : t.isBroken limits <;> simp [hbroken, Option.guard]

/-- **A review shows the last broken template of each id.** The audit has one report for each id, in
the order in which the ids come up first: that of the last template of the id. So the review shows
the ids whose last templates are broken, each with the problems of that template, and counts them. A
broken template is shown with its problems iff the last template of its id has the same problems. If
no id is repeated, all broken templates are shown, in their order. -/
theorem shows_last_broken (h : ofSnapshot? limits s = some r) (snapshotPath tablePath : String) :
    r.reports = ((s.templates.map (·.id)).eraseDups.filterMap fun id =>
      (Catalog.last? ⟨s.templates⟩ id).map fun t => (id, Catalog.check limits ⟨s.templates⟩ t)) ∧
    r.invalid = ((s.templates.map (·.id)).eraseDups.filterMap fun id =>
      ((Catalog.last? ⟨s.templates⟩ id).filter (·.isBroken limits)).map fun t =>
        (id, t.problems limits)) ∧
    (∃ members metrics, r.record snapshotPath tablePath = .object members ∧
      lookup? "invalid_templates" members = some (.object (r.invalid.map fun entry =>
        (entry.1, textList (entry.2.map Template.Problem.message)))) ∧
      lookup? "metrics" members = some (.object metrics) ∧
      lookup? "invalid_templates" metrics =
        some (.int ((s.templates.map (·.id)).eraseDups.countP fun id =>
          (Catalog.last? ⟨s.templates⟩ id).any (·.isBroken limits)))) ∧
    (∀ t : Template, t.isBroken limits = true →
      ((t.id, t.problems limits) ∈ r.invalid ↔ ∃ u,
        Catalog.last? ⟨s.templates⟩ t.id = some u ∧ u.problems limits = t.problems limits)) ∧
    ((s.templates.map (·.id)).Nodup → r.invalid =
      (s.templates.filter (·.isBroken limits)).map fun t => (t.id, t.problems limits)) := by
  refine ⟨?_, invalid_eq h, ?_, fun t ht => mem_invalid_self_iff h ht, invalid_eq_filter h⟩
  · rw [reports_of_ofSnapshot? h, Catalog.checkAll_eq]
  · refine ⟨_, _, rfl, rfl, rfl, ?_⟩
    rw [← length_invalid h]
    rfl

/-- A template without a formula. -/
def unfinished : Template :=
  .bare "a" .global [] none

/-- The same template with a formula. -/
def finished : Template :=
  { unfinished with formula := some "base_price" }

/-- An unfinished template is shown if its id is not repeated. -/
theorem shows_last_broken_unfinished :
    ∃ r, ofSnapshot? .standard ⟨[unfinished], []⟩ = some r ∧
      r.invalid = [("a", unfinished.problems .standard)] := by
  have hbroken : unfinished.isBroken .standard = true := by decide +kernel
  have hreview : ofSnapshot? .standard ⟨[unfinished], []⟩ = some _ := rfl
  obtain ⟨-, -, -, -, hshown⟩ := shows_last_broken hreview "catalog.json" "collisions.csv"
  refine ⟨_, hreview, ?_⟩
  rw [hshown (List.nodup_singleton _)]
  simp only [List.filter_cons, hbroken, if_true, List.filter_nil, List.map_singleton]
  rfl

/-- An unfinished template is not shown, and not counted, if a finished one of its id comes after
it. -/
theorem not_shown_before_finished :
    unfinished.isBroken .standard = true ∧
      ∃ r, ofSnapshot? .standard ⟨[unfinished, finished], []⟩ = some r ∧
        (unfinished.id, unfinished.problems .standard) ∉ r.invalid ∧ r.invalid.length = 0 := by
  have hfit : finished.isBroken .standard = false := by decide +kernel
  have hlast : Catalog.last? ⟨[unfinished, finished]⟩ "a" = some finished := rfl
  have hids : ([unfinished, finished].map (·.id)).eraseDups = ["a"] := rfl
  have hlength : (["a"].countP fun id =>
      (Catalog.last? ⟨[unfinished, finished]⟩ id).any (·.isBroken .standard)) = 0 := by
    simp [hlast, hfit]
  have hempty : ∀ r, ofSnapshot? .standard ⟨[unfinished, finished], []⟩ = some r →
      r.invalid = [] := by
    intro r h
    rw [← List.length_eq_zero_iff, length_invalid h, hids, hlength]
  refine ⟨by decide +kernel, _, rfl, ?_⟩
  rw [hempty _ rfl]
  exact ⟨List.not_mem_nil, rfl⟩

end Review

end Tariff
