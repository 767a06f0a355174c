import Mathlib.Data.List.Nodup
import Tariff.Collision
import Tariff.Proofs.Members

/-!
# Grouping templates by their keys

The groups are built one key at a time. What they hold in the end is described at once: a group for
each key that an active template has, in the order in which the keys come up, and in it the active
templates with that key, in their order.

## Main definitions

* `Tariff.Collision.claimants` — the active templates with a key.
* `Tariff.Collision.entries` — the keys of the active templates, each with its template.

## Main results

* `Tariff.Collision.foldl_enter` — the groups after any number of entries.
* `Tariff.Collision.grouped_eq` — the groups of some templates.
-/

set_option autoImplicit false

namespace Tariff

/-! ### Keys -/

/-- Texts that differ after the same start differ there. -/
lemma append_right_injective (s : String) : Function.Injective (s ++ ·) := by
  intro v w h
  simpa [String.ext_iff] using h

/-- The keys of a template are without repetition. -/
lemma Template.nodup_scopeKeys (t : Template) : t.scopeKeys.Nodup := by
  unfold Template.scopeKeys
  split
  · exact List.nodup_singleton _
  · exact (nodup_eraseDups _).map (append_right_injective (t.scope.name ++ ":"))

namespace Collision

/-- The active templates among some that have a key. -/
def claimants (templates : List Template) (key : String) : List Template :=
  templates.filter fun t => t.isActive && t.scopeKeys.contains key

/-- The templates with a key are the active ones that have it. -/
lemma mem_claimants_iff {templates : List Template} {key : String} {t : Template} :
    t ∈ claimants templates key ↔ t ∈ templates ∧ t.isActive = true ∧ key ∈ t.scopeKeys := by
  rw [claimants, List.mem_filter, Bool.and_eq_true, List.contains_iff_mem]

/-- The keys of the active templates among some, each with its template. -/
def entries (templates : List Template) : List (String × Template) :=
  (templates.filter (·.isActive)).flatMap fun t => t.scopeKeys.map fun key => (key, t)

/-- The templates that some entries have for a key. -/
def under (es : List (String × Template)) (key : String) : List Template :=
  (es.filter (·.1 == key)).map (·.2)

section

variable {t : Template} {templates : List Template} {key : String} {keys : List String}
  {es : List (String × Template)}

/-! ### One entry after the other -/

/-- An entry adds its template to the group of its key, which is the last one if it is new. -/
lemma enter_map {f : String → List Template} (hkeys : keys.Nodup) (hf : key ∉ keys → f key = []) :
    enter t (keys.map fun k => (k, f k)) key =
      (if key ∈ keys then keys else keys ++ [key]).map
        fun k => (k, if k = key then f key ++ [t] else f k) := by
  rw [enter, lookup?_map, assign_map hkeys]
  by_cases hkey : key ∈ keys
  · simp [hkey]
  · simp [hkey, hf hkey]

/-- The templates under a key after further entries. -/
lemma under_append {others : List (String × Template)} :
    under (es ++ others) key = under es key ++ under others key := by
  simp [under]

/-- The templates under a key after one more entry. -/
lemma under_append_singleton {e : String × Template} :
    under (es ++ [e]) key = if key = e.1 then under es e.1 ++ [e.2] else under es key := by
  rw [under_append]
  by_cases hkey : key = e.1
  · simp [under, hkey]
  · simp [under, hkey, Ne.symm hkey]

/-- **The groups after some entries**: one for each key among them, in the order in which the keys
come up first, and in it the templates that have come with the key.

**Proof sketch.** Induction on the entries from the last one. An entry changes one group, or adds
one behind the others if its key has not come up before. -/
theorem foldl_enter (es : List (String × Template)) :
    es.foldl (fun groups e => enter e.2 groups e.1) [] =
      (es.map (·.1)).eraseDups.map fun key => (key, under es key) := by
  induction es using List.reverseRecOn with
  | nil => rfl
  | append_singleton es e ih =>
    have hnew : e.1 ∉ (es.map (·.1)).eraseDups → under es e.1 = [] := by
      intro h
      rw [List.mem_eraseDups, List.mem_map] at h
      simp only [under, List.map_eq_nil_iff, List.filter_eq_nil_iff, beq_iff_eq]
      exact fun a ha hkey => h ⟨a, ha, hkey⟩
    rw [List.foldl_append, List.foldl_cons, List.foldl_nil, ih,
      enter_map (nodup_eraseDups _) hnew, List.map_append, List.map_singleton,
      eraseDups_append_singleton]
    simp only [under_append_singleton]

/-! ### All entries of some templates -/

/-- Grouping templates enters all their keys. -/
lemma grouped_eq_foldl :
    grouped templates = (entries templates).foldl (fun groups e => enter e.2 groups e.1) [] := by
  rw [entries, List.foldl_flatMap, List.foldl_filter, grouped]
  simp only [List.foldl_map]
  rfl

/-- A template is once under each of its keys. -/
lemma under_map (hkeys : keys.Nodup) :
    under (keys.map fun k => (k, t)) key = if key ∈ keys then [t] else [] := by
  have hfilter : under (keys.map fun k => (k, t)) key =
      (keys.filter (· == key)).map fun _ => t := by
    simp [under, List.filter_map, Function.comp_def]
  rw [hfilter, List.filter_beq, hkeys.count]
  split <;> rfl

/-- The templates under a key are those that have it, each once. -/
lemma under_entries : under (entries templates) key = claimants templates key := by
  induction templates with
  | nil => rfl
  | cons t templates ih =>
    rw [entries, claimants] at ih ⊢
    cases hactive : t.isActive with
    | false => simpa [hactive] using ih
    | true =>
      rw [List.filter_cons_of_pos hactive, List.flatMap_cons, under_append, ih,
        under_map t.nodup_scopeKeys]
      by_cases hkey : key ∈ t.scopeKeys
      · simp [hactive, hkey]
      · simp [hactive, hkey]

/-- The keys of the entries are those of the active templates. -/
lemma keys_entries :
    (entries templates).map (·.1) = (templates.filter (·.isActive)).flatMap Template.scopeKeys := by
  rw [entries, List.map_flatMap]
  congr 1
  funext t
  simp [Function.comp_def]

/-- **The groups of some templates.** -/
theorem grouped_eq (templates : List Template) :
    grouped templates = ((templates.filter (·.isActive)).flatMap Template.scopeKeys).eraseDups.map
      fun key => (key, claimants templates key) := by
  rw [grouped_eq_foldl, foldl_enter, keys_entries]
  simp only [under_entries]

end

end Collision

end Tariff
