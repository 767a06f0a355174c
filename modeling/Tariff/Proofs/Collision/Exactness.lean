import Mathlib.Data.List.Perm.Subperm
import Tariff.Proofs.Collision.Grouping

/-!
# What the collisions are

A key can be read back: what stands before the first colon is the scope, whatever the value holds.
So templates that share a key name the same thing, and the groups by keys are groups by the things
that scopes name.

## Main results

* `Tariff.Target.ofKey?_text` — a key is read back as the thing that it was written for.
* `Tariff.Collision.exists_collision_of_shared` — a key that two active templates share has a
  collision, and both are in it.
* `Tariff.Collision.exists_target_iff` — which things there are collisions about.
* `Tariff.Collision.all_exact` — the collisions are the groups of more than one template.
-/

set_option autoImplicit false

namespace Tariff

/-! ### Keys and what they stand for -/

section

variable {t u : Template} {k l : Target} {key v : String} {scope : Scope}

/-- A scope is found by its name. -/
lemma Scope.ofName?_name (scope : Scope) : Scope.ofName? scope.name = some scope := by
  cases scope <;> rfl

/-- The name of a scope holds no colon. -/
lemma Scope.ne_colon_of_mem_name : ∀ c ∈ scope.name.toList, (c != ':') = true :=
  List.all_eq_true.1 (by cases scope <;> rfl)

/-- The scope stands in a key before the first colon. -/
lemma takeWhile_key (scope : Scope) (v : String) :
    (scope.name ++ ":" ++ v).toList.takeWhile (· != ':') = scope.name.toList := by
  rw [String.toList_append, String.toList_append, List.append_assoc,
    List.takeWhile_append_of_pos Scope.ne_colon_of_mem_name]
  simp

/-- The value stands in a key after the first colon. -/
lemma dropWhile_key :
    ((scope.name ++ ":" ++ v).toList.dropWhile (· != ':')).drop 1 = v.toList := by
  rw [String.toList_append, String.toList_append, List.append_assoc,
    List.dropWhile_append_of_pos Scope.ne_colon_of_mem_name]
  simp

/-- The key of all products is the key of no value of another scope. -/
lemma key_ne_globalKey (h : scope ≠ .global) : scope.name ++ ":" ++ v ≠ globalKey := by
  intro heq
  have hname := takeWhile_key scope v
  rw [heq] at hname
  cases scope <;> first | exact absurd rfl h | exact absurd hname (by decide)

/-- The key of a value is read back as that value of its scope. -/
lemma Target.ofKey?_key (h : scope ≠ .global) :
    Target.ofKey? (scope.name ++ ":" ++ v) = some ⟨scope, some v⟩ := by
  simp only [Target.ofKey?, takeWhile_key, dropWhile_key, String.ofList_toList,
    Scope.ofName?_name, Option.map_some, beq_iff_eq, key_ne_globalKey h, if_false]

/-- The keys of a template are those of the things that it names. -/
lemma Template.scopeKeys_eq : t.scopeKeys = t.targets.map Target.text := by
  unfold Template.scopeKeys Template.targets
  split
  · rfl
  · simp [Target.text]

/-- **A key can be read back**, whatever value it was written for. -/
lemma Target.ofKey?_text (h : k ∈ t.targets) : Target.ofKey? k.text = some k := by
  unfold Template.targets at h
  split at h
  · obtain rfl := List.mem_singleton.1 h
    rfl
  · rename_i hscope
    obtain ⟨v, -, rfl⟩ := List.mem_map.1 h
    exact Target.ofKey?_key hscope

/-- Things that scopes name have different keys if they are different. -/
lemma Target.eq_of_text_eq (hk : k ∈ t.targets) (hl : l ∈ u.targets) (h : k.text = l.text) :
    k = l := by
  have hread := Target.ofKey?_text hk
  rw [h, Target.ofKey?_text hl] at hread
  exact (Option.some.inj hread).symm

end

/-! ### Groups and what they stand for -/

/-- Where every element can be read and the readings give the elements back, all are read. -/
lemma exists_mapM_eq_some {α β : Type} {f : α → Option β} {g : β → α} {P : β → Prop} {l : List α}
    (h : ∀ a ∈ l, ∃ b, f a = some b ∧ g b = a ∧ P b) :
    ∃ bs, l.mapM f = some bs ∧ bs.map g = l ∧ ∀ b ∈ bs, P b := by
  induction l with
  | nil => exact ⟨[], rfl, rfl, by simp⟩
  | cons a l ih =>
    obtain ⟨b, hb, hg, hP⟩ := h a List.mem_cons_self
    obtain ⟨bs, hbs, hmap, hall⟩ := ih fun a ha => h a (List.mem_cons_of_mem _ ha)
    refine ⟨b :: bs, ?_, by rw [List.map_cons, hg, hmap], List.forall_mem_cons.2 ⟨hP, hall⟩⟩
    rw [List.mapM_cons, hb, Option.bind_eq_bind, Option.bind_some, hbs]
    rfl

namespace Collision

variable {templates : List Template} {t u : Template} {key : String} {c : Collision}

/-- A collision as a group: its key in writing, and its templates. -/
def group (c : Collision) : String × List Template :=
  (c.target.text, c.templates)

/-- The keys that more than one active template has, in the order in which they come up. -/
def sharedKeys (templates : List Template) : List String :=
  ((templates.filter (·.isActive)).flatMap Template.scopeKeys).eraseDups.filter fun key =>
    1 < (claimants templates key).length

/-- A key is shared iff more than one active template has it. -/
lemma mem_sharedKeys_iff : key ∈ sharedKeys templates ↔ 1 < (claimants templates key).length := by
  simp only [sharedKeys, List.mem_filter, decide_eq_true_eq, and_iff_right_iff_imp]
  intro h
  obtain ⟨t, ht⟩ := List.exists_mem_of_length_pos (Nat.zero_lt_of_lt h)
  obtain ⟨hmem, hactive, hkey⟩ := mem_claimants_iff.1 ht
  rw [List.mem_eraseDups, List.mem_flatMap]
  exact ⟨t, List.mem_filter.2 ⟨hmem, hactive⟩, hkey⟩

/-- The groups of more than one template are those of the shared keys. -/
lemma filter_grouped : (grouped templates).filter (fun group => 1 < group.2.length) =
    (sharedKeys templates).map fun key => (key, claimants templates key) := by
  rw [grouped_eq, List.filter_map]
  rfl

/-- The group of a shared key is a collision about something that a template names. -/
lemma exists_ofGroup?_eq (h : key ∈ sharedKeys templates) :
    ∃ c, ofGroup? (key, claimants templates key) = some c ∧
      c.group = (key, claimants templates key) ∧ ∃ t : Template, c.target ∈ t.targets := by
  rw [sharedKeys, List.mem_filter, List.mem_eraseDups, List.mem_flatMap] at h
  obtain ⟨⟨t, -, hkey⟩, -⟩ := h
  rw [Template.scopeKeys_eq, List.mem_map] at hkey
  obtain ⟨k, hk, rfl⟩ := hkey
  refine ⟨⟨k, claimants templates k.text⟩, ?_, rfl, t, hk⟩
  rw [ofGroup?, Target.ofKey?_text hk, Option.map_some]

/-- The collisions are read off the groups of the shared keys. -/
lemma all?_eq : all? templates = some (all templates) ∧
    (all templates).map group =
      (sharedKeys templates).map (fun key => (key, claimants templates key)) ∧
    ∀ c ∈ all templates, ∃ t : Template, c.target ∈ t.targets := by
  have hread : ∀ g ∈ (sharedKeys templates).map fun key => (key, claimants templates key),
      ∃ c, ofGroup? g = some c ∧ c.group = g ∧ ∃ t : Template, c.target ∈ t.targets := by
    intro g hg
    obtain ⟨key, hkey, rfl⟩ := List.mem_map.1 hg
    exact exists_ofGroup?_eq hkey
  obtain ⟨cs, hcs, hgroup, hnamed⟩ := exists_mapM_eq_some hread
  have hall : all? templates = some cs := by
    rw [all?, filter_grouped, hcs]
  rw [all, hall]
  exact ⟨rfl, hgroup, hnamed⟩

/-- The keys of the collisions are the shared keys. -/
lemma map_text_all : (all templates).map (·.target.text) = sharedKeys templates := by
  have hgroups : (all templates).map group =
      (sharedKeys templates).map fun key => (key, claimants templates key) := all?_eq.2.1
  simpa [Function.comp_def, group] using congrArg (List.map Prod.fst) hgroups

/-- The templates of a collision are the active ones that have its key. -/
lemma templates_eq_claimants (h : c ∈ all templates) :
    c.templates = claimants templates c.target.text := by
  have hgroup : c.group ∈ (all templates).map group := List.mem_map.2 ⟨c, h, rfl⟩
  rw [all?_eq.2.1, List.mem_map] at hgroup
  obtain ⟨key, -, heq⟩ := hgroup
  obtain ⟨rfl, htemplates⟩ := Prod.mk.inj heq
  exact htemplates.symm

/-- Two active templates that share a key are in the collision of that key. -/
lemma exists_collision_of_shared (hpair : [t, u].Subperm templates) (ht : t.isActive = true)
    (hu : u.isActive = true) (htkey : key ∈ t.scopeKeys) (hukey : key ∈ u.scopeKeys) :
    ∃ c ∈ all templates, c.target.text = key ∧ [t, u].Subperm c.templates := by
  have hboth : [t, u].Subperm (claimants templates key) := by
    have hfilter := hpair.filter fun t => t.isActive && t.scopeKeys.contains key
    rw [claimants]
    simpa [ht, hu, htkey, hukey] using hfilter
  have hshared : key ∈ sharedKeys templates := mem_sharedKeys_iff.2 hboth.length_le
  rw [← map_text_all, List.mem_map] at hshared
  obtain ⟨c, hc, rfl⟩ := hshared
  exact ⟨c, hc, rfl, by rwa [templates_eq_claimants hc]⟩

/-- The templates with the key of something that a template names are those that name it. -/
lemma claimants_text {u : Template} {k : Target} (h : k ∈ u.targets) :
    claimants templates k.text = templates.filter fun t => t.isActive && t.targets.contains k := by
  refine List.filter_congr fun t _ => ?_
  congr 1
  rw [Bool.eq_iff_iff, List.contains_iff_mem, List.contains_iff_mem, Template.scopeKeys_eq,
    List.mem_map]
  constructor
  · rintro ⟨l, hl, htext⟩
    rwa [← Target.eq_of_text_eq hl h htext]
  · exact fun hk => ⟨k, hk, rfl⟩

/-- There is a collision with each key that more than one active template has. -/
lemma exists_text_iff :
    (∃ c ∈ all templates, c.target.text = key) ↔ 1 < (claimants templates key).length := by
  rw [← mem_sharedKeys_iff, ← map_text_all, List.mem_map]

/-- The templates of a collision are the active ones that name what it is about. -/
lemma templates_eq_filter (h : c ∈ all templates) :
    c.templates = templates.filter fun t => t.isActive && t.targets.contains c.target := by
  obtain ⟨u, hu⟩ := all?_eq.2.2 c h
  rw [templates_eq_claimants h, claimants_text hu]

/-- **There is a collision about each thing that more than one active template names.** -/
lemma exists_target_iff {k : Target} : (∃ c ∈ all templates, c.target = k) ↔
    1 < (templates.filter fun t => t.isActive && t.targets.contains k).length := by
  constructor
  · rintro ⟨c, hc, rfl⟩
    rw [← templates_eq_filter hc, templates_eq_claimants hc, ← exists_text_iff]
    exact ⟨c, hc, rfl⟩
  · intro h
    obtain ⟨t, ht⟩ := List.exists_mem_of_length_pos (Nat.zero_lt_of_lt h)
    have hk : k ∈ t.targets := by
      simpa using (Bool.and_eq_true_iff.1 (List.mem_filter.1 ht).2).2
    rw [← claimants_text hk, ← exists_text_iff] at h
    obtain ⟨c, hc, htext⟩ := h
    obtain ⟨u, hu⟩ := all?_eq.2.2 c hc
    exact ⟨c, hc, Target.eq_of_text_eq hu hk htext⟩

/-- **The collisions are the groups of more than one template.** Every group is a collision with
the key that it was built for, and there is one for each key that more than one active template
has, in the order in which the keys come up. In it are the active templates with the key, each
once and in their order, and they are the active templates that name what the key stands for. So
there is a collision about each thing that more than one active template names, and about nothing
else. -/
theorem all_exact (templates : List Template) :
    all? templates = some (all templates) ∧
    (all templates).map (fun c => (c.target.text, c.templates)) =
      (((templates.filter (·.isActive)).flatMap Template.scopeKeys).eraseDups.filter fun key =>
        1 < (claimants templates key).length).map (fun key => (key, claimants templates key)) ∧
    ((all templates).map (·.target.text)).Nodup ∧
    (∀ key, (∃ c ∈ all templates, c.target.text = key) ↔
      1 < (claimants templates key).length) ∧
    (∀ k, (∃ c ∈ all templates, c.target = k) ↔
      1 < (templates.filter fun t => t.isActive && t.targets.contains k).length) ∧
    ∀ c ∈ all templates,
      c.templates = templates.filter fun t => t.isActive && t.targets.contains c.target := by
  refine ⟨all?_eq.1, all?_eq.2.1, ?_, fun key => exists_text_iff, fun k => exists_target_iff,
    fun c hc => templates_eq_filter hc⟩
  rw [map_text_all]
  exact (nodup_eraseDups _).filter _

end Collision

end Tariff
