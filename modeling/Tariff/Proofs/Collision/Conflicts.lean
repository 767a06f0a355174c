import Tariff.Catalog
import Tariff.Proofs.Collision.Exactness
import Tariff.Proofs.Match.Candidates

/-!
# Conflicts are collisions

A template that is about to be saved is compared with the templates of its catalog one by one, and
those that share keys with it are in conflict with it. The merchant's review groups all templates
by their keys instead. Both ways lead to the same templates and the same keys: a conflict is a
collision that there would be if the template took the place of those of its id.

## Main definitions

* `Tariff.Catalog.collisionsWith` — the collisions that there would be.
* `Tariff.Collision.Joins` — a collision is between two templates.
* `Tariff.Template.Warning.isConflict` — a warning is about another template.
* `Tariff.Template.keysSharedWith` — the keys of a template that another one has as well.

## Main results

* `Tariff.Catalog.exists_joins_iff` — the keys of the collisions between two templates.
* `Tariff.Catalog.conflicts_eq` — the conflicts, listed.
* `Tariff.Catalog.conflicts_are_collisions` — what the check of a template says about the others.
-/

set_option autoImplicit false

namespace Tariff

/-- The collisions that there would be if a template took the place of those of its id. -/
def Catalog.collisionsWith (c : Catalog) (t : Template) : List Collision :=
  Collision.all (c.templates.filter (·.id != t.id) ++ [t])

/-- Two templates are in a collision. -/
def Collision.Joins (k : Collision) (t other : Template) : Prop :=
  t ∈ k.templates ∧ other ∈ k.templates

/-- Whether a warning is about another template. -/
def Template.Warning.isConflict : Template.Warning → Bool
  | conflict .. => true
  | _ => false

/-- The keys of a template that another one has as well. -/
def Template.keysSharedWith (other t : Template) : List String :=
  other.scopeKeys.filter t.scopeKeys.contains

namespace Catalog

variable {limits : Formula.Limits} {c : Catalog} {t other : Template} {key : String}

/-! ### One other template -/

/-- The shared keys of two templates are the keys that both have. -/
lemma mem_keysSharedWith_iff :
    key ∈ other.keysSharedWith t ↔ key ∈ other.scopeKeys ∧ key ∈ t.scopeKeys := by
  rw [Template.keysSharedWith, List.mem_filter, List.contains_iff_mem]

/-- **The keys of the collisions between two templates** are the keys that both have. -/
lemma exists_joins_iff (ht : t.isActive = true) (hmem : other ∈ c.templates)
    (hid : other.id ≠ t.id) (hother : other.isActive = true) :
    (∃ k ∈ c.collisionsWith t, k.Joins t other ∧ k.target.text = key) ↔
      key ∈ other.keysSharedWith t := by
  rw [mem_keysSharedWith_iff]
  constructor
  · rintro ⟨k, hk, ⟨htk, hotherk⟩, rfl⟩
    rw [Collision.templates_eq_claimants hk] at htk hotherk
    exact ⟨(Collision.mem_claimants_iff.1 hotherk).2.2, (Collision.mem_claimants_iff.1 htk).2.2⟩
  · rintro ⟨hotherkey, htkey⟩
    -- the template comes after the others, so that the two are different members of the list
    have hin : other ∈ c.templates.filter (·.id != t.id) :=
      List.mem_filter.2 ⟨hmem, by simpa using hid⟩
    have hpair : [other, t].Subperm (c.templates.filter (·.id != t.id) ++ [t]) :=
      ((List.singleton_sublist.2 hin).append (List.Sublist.refl [t])).subperm
    obtain ⟨k, hk, hkey, hboth⟩ :=
      Collision.exists_collision_of_shared hpair hother ht hotherkey htkey
    exact ⟨k, hk, ⟨hboth.subset (by simp), hboth.subset (by simp)⟩, hkey⟩

/-- Two templates are in a collision iff they share a key. -/
lemma exists_joins_iff_ne_nil (ht : t.isActive = true) (hmem : other ∈ c.templates)
    (hid : other.id ≠ t.id) (hother : other.isActive = true) :
    (∃ k ∈ c.collisionsWith t, k.Joins t other) ↔ other.keysSharedWith t ≠ [] := by
  constructor
  · rintro ⟨k, hk, hjoins⟩
    exact List.ne_nil_of_mem ((exists_joins_iff ht hmem hid hother).1 ⟨k, hk, hjoins, rfl⟩)
  · intro hne
    obtain ⟨key, hkey⟩ := List.exists_mem_of_ne_nil _ hne
    obtain ⟨k, hk, hjoins, -⟩ := (exists_joins_iff ht hmem hid hother).2 hkey
    exact ⟨k, hk, hjoins⟩

open Classical in
/-- The shared keys of two templates are the keys of the collisions between them, each once. -/
lemma keysSharedWith_perm (ht : t.isActive = true) (hmem : other ∈ c.templates)
    (hid : other.id ≠ t.id) (hother : other.isActive = true) :
    (other.keysSharedWith t).Perm
      (((c.collisionsWith t).filter fun k => k.Joins t other).map (·.target.text)) := by
  have hshared : (other.keysSharedWith t).Nodup := other.nodup_scopeKeys.filter _
  have hcollisions : ((c.collisionsWith t).map (·.target.text)).Nodup := by
    rw [collisionsWith, Collision.map_text_all]
    exact (nodup_eraseDups _).filter _
  refine (List.perm_ext_iff_of_nodup hshared
    (hcollisions.sublist (List.filter_sublist.map _))).2 fun key => ?_
  rw [← exists_joins_iff ht hmem hid hother]
  simp [and_assoc]

/-! ### All other templates -/

/-- A conflict stands for shared keys. -/
lemma conflictWith_eq : conflictWith t other =
    if (other.keysSharedWith t).isEmpty then none
    else some (.conflict other.name other.id (other.keysSharedWith t)) :=
  rfl

/-- **The conflicts, listed**: one for each active template of another id that shares keys. -/
lemma conflicts_eq : c.conflicts t =
    (c.templates.filter fun other =>
      !(other.keysSharedWith t).isEmpty && (other.id != t.id && other.isActive)).map
      fun other => .conflict other.name other.id (other.keysSharedWith t) := by
  have hconflict : ∀ other, conflictWith t other =
      (Option.guard (fun other => !(other.keysSharedWith t).isEmpty) other).map
        fun other => .conflict other.name other.id (other.keysSharedWith t) := by
    intro other
    rw [conflictWith_eq, Option.guard]
    by_cases h : (other.keysSharedWith t).isEmpty = true <;> simp [h]
  rw [conflicts, funext hconflict, ← List.map_filterMap, List.filterMap_eq_filter,
    List.filter_filter]

/-- The warnings of a check about other templates are the conflicts, if the template is active and
fit to be saved. -/
lemma filter_isConflict_check (ht : t.isActive = true) (hfit : (c.check limits t).isValid = true) :
    (c.check limits t).warnings.filter (·.isConflict) = c.conflicts t := by
  have hproblems : (t.problems limits).isEmpty = true := hfit
  have hconflicts : (c.conflicts t).filter (·.isConflict) = c.conflicts t := by
    rw [List.filter_eq_self, conflicts_eq]
    intro w hw
    obtain ⟨other, -, rfl⟩ := List.mem_map.1 hw
    rfl
  simp only [check, hproblems, ht, Bool.and_self, if_true, List.filter_append, hconflicts]
  simp [List.filter_map, Function.comp_def, Template.Warning.isConflict]

open Classical in
/-- **Conflicts are collisions.** Let an active template be fit to be saved. The check warns about a
template of the catalog iff that is active, has another id, and is in a collision with the template
among the templates of other ids and the template itself. There is one warning for each, in the
order of the catalog. It names the keys that both templates have, which are the keys of the
collisions between them.

**Proof sketch.** A warning stands for shared keys (`conflicts_eq`). A shared key has a collision
with both templates in it, and the key of such a collision is shared (`exists_joins_iff`). -/
theorem conflicts_are_collisions (ht : t.isActive = true)
    (hfit : (c.check limits t).isValid = true) :
    (c.check limits t).warnings.filter (·.isConflict) =
      (c.templates.filter fun other => other.isActive = true ∧ other.id ≠ t.id ∧
        ∃ k ∈ c.collisionsWith t, k.Joins t other).map
        (fun other => .conflict other.name other.id (other.keysSharedWith t)) ∧
    ∀ other ∈ c.templates, other.isActive = true → other.id ≠ t.id →
      (other.keysSharedWith t).Perm
        (((c.collisionsWith t).filter fun k => k.Joins t other).map (·.target.text)) := by
  refine ⟨?_, fun other hmem hother hid => keysSharedWith_perm ht hmem hid hother⟩
  rw [filter_isConflict_check ht hfit, conflicts_eq]
  congr 1
  refine List.filter_congr fun other hmem => ?_
  rw [Bool.eq_iff_iff]
  simp only [Bool.and_eq_true, bne_iff_ne, Bool.not_eq_true', List.isEmpty_eq_false_iff,
    decide_eq_true_eq]
  constructor
  · rintro ⟨hkeys, hid, hother⟩
    exact ⟨hother, hid, (exists_joins_iff_ne_nil ht hmem hid hother).2 hkeys⟩
  · rintro ⟨hother, hid, hjoins⟩
    exact ⟨(exists_joins_iff_ne_nil ht hmem hid hother).1 hjoins, hid, hother⟩

/-- A template for two tags. -/
def forSeason : Template :=
  .bare "season" .tag ["new", "sale"] none

/-- A catalog with that template, one for a tag that is not in use, and the clearance as it was. -/
def season : Catalog :=
  ⟨[forSeason, { Template.bare "past" .tag ["sale"] none with isActive := false },
    .bare "clearance" .tag ["new"] none]⟩

/-- The clearance as it is to be saved, which gives one of its tags twice. -/
def clearance : Template :=
  { Template.bare "clearance" .tag ["sale", "last", "sale"] none with formula := some "base_price" }

open Classical in
/-- A template that is saved for a tag of another one is in a collision with it, and in conflict. -/
theorem conflicts_are_collisions_clearance :
    clearance.isActive = true ∧ (season.check .standard clearance).isValid = true ∧
      .conflict "season" "season" ["TAG:sale"] ∈
        (season.check .standard clearance).warnings.filter (·.isConflict) ∧
      ∃ k ∈ season.collisionsWith clearance,
        k.Joins clearance forSeason ∧ k.target.text = "TAG:sale" := by
  have hfit : (season.check .standard clearance).isValid = true := by decide +kernel
  have hshared : forSeason.keysSharedWith clearance = ["TAG:sale"] := by decide +kernel
  obtain ⟨hwarnings, hkeys⟩ := conflicts_are_collisions (c := season) rfl hfit
  have hperm := hkeys forSeason List.mem_cons_self rfl (by decide)
  rw [hshared] at hperm
  obtain ⟨k, hk, hkey⟩ := List.mem_map.1 (hperm.mem_iff.1 List.mem_cons_self)
  obtain ⟨hmem, hjoins⟩ := List.mem_filter.1 hk
  have hjoins : k.Joins clearance forSeason := of_decide_eq_true hjoins
  refine ⟨rfl, hfit, ?_, k, hmem, hjoins, hkey⟩
  rw [hwarnings, List.mem_map]
  refine ⟨forSeason, List.mem_filter.2 ⟨List.mem_cons_self, ?_⟩, by rw [hshared]; rfl⟩
  exact decide_eq_true ⟨rfl, by decide, k, hmem, hjoins⟩

end Catalog

end Tariff
