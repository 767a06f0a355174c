import Tariff.Proofs.Collision.Exactness
import Tariff.Proofs.Match.Optimality

/-!
# Which ambiguities are reported

Two templates of one scope are both for a product when they name the same fact of it. Collisions
are looked for by the keys of the templates, which keep a value as it is spelled, while vendors and
tags are compared with a product in small letters. So of two templates that are for one product,
both are in one collision unless they name its vendor or its tag in different spellings only.

## Main definitions

* `Tariff.Product.HasFact` — a value of a scope is a fact of a product.

## Main results

* `Tariff.Template.exists_hasFact` — a template that is for a product names a fact of it.
* `Tariff.Collision.exists_collision_iff` — two templates are in one collision iff they share a key.
* `Tariff.Collision.reported_iff` — which matches of one rank are in one collision.
* `Tariff.Collision.not_reported_spelled` — two matches of one rank that are in none.
-/

set_option autoImplicit false

namespace Tariff

open Tariff.Text

variable {p : Product} {t u : Template} {key v w : String} {scope : Scope}

/-! ### Facts of products -/

/-- Whether a value of a scope is a fact of a product. Vendors and tags are compared in small
letters. -/
def Product.HasFact (p : Product) (scope : Scope) (v : String) : Prop :=
  match scope with
  | .global => False
  | .product => p.id = .ok (some v)
  | .collection => ∃ vs, p.collections = .ok vs ∧ v ∈ vs
  | .vendor => ∃ name, p.vendor = .ok (some name) ∧ lower v = lower name
  | .tag => ∃ vs, p.tags = .ok vs ∧ ∃ tag ∈ vs, lower v = lower tag

/-- Where there is a reason by hits, there is a hit. -/
lemma exists_of_hits {values : List String} {isFact : String → Bool}
    {reason : List String → Reason} {r : Reason} (h : hits values isFact reason = some r) :
    ∃ v ∈ values, isFact v = true := by
  rw [hits] at h
  split at h
  · contradiction
  · rename_i hfound
    obtain ⟨v, hv⟩ := List.exists_mem_of_ne_nil _ hfound
    exact ⟨v, List.mem_filter.1 hv⟩

/-- A template that is for a product is for all products, or names a fact of it. -/
lemma Template.exists_hasFact (h : t.isFor p = true) :
    t.scope = .global ∨ ∃ v ∈ t.scopeValues, p.HasFact t.scope v := by
  obtain ⟨-, r, hr⟩ := Template.isFor_iff.1 h
  unfold Template.reasonFor at hr
  cases hscope : t.scope with
  | global => exact .inl rfl
  | product =>
    simp only [hscope] at hr
    obtain ⟨id?, hid, hr⟩ := bind_eq_ok.1 hr
    cases id? with
    | none => simp at hr
    | some id =>
      have hnamed := Except.ok.inj hr
      split at hnamed
      · rename_i hmem
        exact .inr ⟨id, List.contains_iff_mem.1 hmem, hid⟩
      · contradiction
  | collection =>
    simp only [hscope] at hr
    obtain ⟨vs, hvs, hr⟩ := bind_eq_ok.1 hr
    obtain ⟨v, hv, hhit⟩ := exists_of_hits (Except.ok.inj hr)
    exact .inr ⟨v, hv, vs, hvs, List.contains_iff_mem.1 hhit⟩
  | vendor =>
    simp only [hscope] at hr
    obtain ⟨vendor?, hvendor, hr⟩ := bind_eq_ok.1 hr
    cases vendor? with
    | none => simp at hr
    | some name =>
      have hnamed := Except.ok.inj hr
      split at hnamed
      · rename_i hany
        obtain ⟨v, hv, hlower⟩ := List.any_eq_true.1 hany
        exact .inr ⟨v, hv, name, hvendor, by simpa using hlower⟩
      · contradiction
  | tag =>
    simp only [hscope] at hr
    obtain ⟨vs, hvs, hr⟩ := bind_eq_ok.1 hr
    obtain ⟨v, hv, hhit⟩ := exists_of_hits (Except.ok.inj hr)
    obtain ⟨tag, htag, hlower⟩ := List.mem_map.1 (List.contains_iff_mem.1 hhit)
    exact .inr ⟨v, hv, vs, hvs, tag, htag, hlower.symm⟩

/-- A list of at most one element holds no two different ones. -/
lemma eq_of_mem_of_length_le_one {α : Type} {l : List α} {a b : α} (h : l.length ≤ 1)
    (ha : a ∈ l) (hb : b ∈ l) : a = b := by
  match l, h with
  | [c], _ => rw [List.mem_singleton.1 ha, List.mem_singleton.1 hb]

/-- A product has one id, and one collection at most. -/
lemma Product.HasFact.eq (hscope : scope = .product ∨ scope = .collection)
    (hcollections : ∀ vs, p.collections = .ok vs → vs.length ≤ 1) (hv : p.HasFact scope v)
    (hw : p.HasFact scope w) : v = w := by
  rcases hscope with rfl | rfl
  · exact Option.some.inj (Except.ok.inj (Eq.trans (Eq.symm hv) hw))
  · obtain ⟨vs, hvs, hv⟩ := hv
    obtain ⟨ws, hws, hw⟩ := hw
    obtain rfl := Except.ok.inj (hvs.symm.trans hws)
    exact eq_of_mem_of_length_le_one (hcollections vs hvs) hv hw

/-- A product has one vendor and one tag at most, which are compared in small letters. -/
lemma Product.HasFact.lower_eq (hscope : scope = .vendor ∨ scope = .tag)
    (htags : ∀ vs, p.tags = .ok vs → vs.length ≤ 1) (hv : p.HasFact scope v)
    (hw : p.HasFact scope w) : lower v = lower w := by
  rcases hscope with rfl | rfl
  · obtain ⟨name, hname, hv⟩ := hv
    obtain ⟨other, hother, hw⟩ := hw
    obtain rfl := Option.some.inj (Except.ok.inj (hname.symm.trans hother))
    rw [hv, hw]
  · obtain ⟨vs, hvs, tag, htag, hv⟩ := hv
    obtain ⟨ws, hws, other, hother, hw⟩ := hw
    obtain rfl := Except.ok.inj (hvs.symm.trans hws)
    rw [hv, hw, eq_of_mem_of_length_le_one (htags vs hvs) htag hother]

/-! ### Shared keys -/

/-- Scopes of one rank are the same. -/
lemma Scope.eq_of_rank_eq {s s' : Scope} (h : s.rank = s'.rank) : s = s' := by
  cases s <;> cases s' <;> first | rfl | contradiction

/-- The keys of a template are written for its values, unless it is for all products. -/
lemma Template.mem_scopeKeys_iff (hscope : t.scope ≠ .global) :
    key ∈ t.scopeKeys ↔ ∃ v ∈ t.scopeValues, t.scope.name ++ ":" ++ v = key := by
  unfold Template.scopeKeys
  split
  · contradiction
  · simp only [List.mem_map, List.mem_eraseDups]

/-- Two templates of one scope share a key iff that is the scope of all products or they share a
value. -/
lemma Template.exists_shared_key_iff (hscope : t.scope = u.scope) :
    (∃ key ∈ t.scopeKeys, key ∈ u.scopeKeys) ↔
      t.scope = .global ∨ ∃ v ∈ t.scopeValues, v ∈ u.scopeValues := by
  by_cases hglobal : t.scope = .global
  · have hkeys : ∀ s : Template, s.scope = .global → s.scopeKeys = [globalKey] := by
      intro s hs
      rw [Template.scopeKeys, hs]
    rw [hkeys t hglobal, hkeys u (hscope ▸ hglobal)]
    simp [hglobal]
  · have hglobal' : u.scope ≠ .global := hscope ▸ hglobal
    simp only [Template.mem_scopeKeys_iff hglobal, Template.mem_scopeKeys_iff hglobal', hglobal,
      false_or]
    constructor
    · rintro ⟨_, ⟨v, hv, rfl⟩, w, hw, hkey⟩
      rw [hscope] at hkey
      obtain rfl := append_right_injective _ hkey
      exact ⟨w, hv, hw⟩
    · rintro ⟨v, hv, hw⟩
      exact ⟨_, ⟨v, hv, rfl⟩, v, hw, by rw [hscope]⟩

namespace Collision

variable {templates : List Template} {c : Collision}

/-- **Two active templates are in one collision iff they share a key.** -/
lemma exists_collision_iff (hpair : [t, u].Subperm templates) (ht : t.isActive = true)
    (hu : u.isActive = true) :
    (∃ c ∈ all templates, [t, u].Subperm c.templates) ↔
      ∃ key ∈ t.scopeKeys, key ∈ u.scopeKeys := by
  constructor
  · rintro ⟨c, hc, hin⟩
    rw [templates_eq_claimants hc] at hin
    have hclaims : ∀ s ∈ [t, u], c.target.text ∈ s.scopeKeys := fun s hs =>
      (mem_claimants_iff.1 (hin.subset hs)).2.2
    exact ⟨c.target.text, hclaims t (by simp), hclaims u (by simp)⟩
  · rintro ⟨key, htkey, hukey⟩
    obtain ⟨c, hc, -, hin⟩ := exists_collision_of_shared hpair ht hu htkey hukey
    exact ⟨c, hc, hin⟩

/-! ### Matches of one rank -/

section

variable {ms : List Match} {m n : Match} {i j : ℕ}

/-- Elements at two places of a list are two of its elements. -/
lemma pair_subperm {α : Type} {l : List α} {a b : α} (ha : l[i]? = some a) (hb : l[j]? = some b)
    (hij : i ≠ j) : [a, b].Subperm l := by
  obtain ⟨hi, rfl⟩ := List.getElem?_eq_some_iff.1 ha
  obtain ⟨hj, rfl⟩ := List.getElem?_eq_some_iff.1 hb
  rcases Nat.lt_or_gt_of_ne hij with hlt | hgt
  · have hplaces : [(⟨i, hi⟩ : Fin l.length), ⟨j, hj⟩].Pairwise (· < ·) := by simpa using hlt
    exact (List.map_getElem_sublist hplaces).subperm
  · have hplaces : [(⟨j, hj⟩ : Fin l.length), ⟨i, hi⟩].Pairwise (· < ·) := by simpa using hgt
    exact (List.Perm.swap _ _ _).subperm.trans (List.map_getElem_sublist hplaces).subperm

/-- The templates of matches at two places are two of the templates for the product. -/
lemma pair_of_matches (hall : Match.all templates p = .ok ms) (hm : ms[i]? = some m)
    (hn : ms[j]? = some n) (hij : i ≠ j) :
    [m.template, n.template].Subperm (templates.filter (·.isFor p)) := by
  have htemplates : (ms.map (·.template)).Perm (templates.filter (·.isFor p)) := by
    obtain ⟨-, -, rfl⟩ := Match.all_eq_ok_iff.1 hall
    have hsorted := (List.mergeSort_perm ((templates.filter (·.isFor p)).map (Match.of p))
      Match.isAtLeast).map (·.template)
    rwa [Match.map_template_map_of] at hsorted
  have hm' : (ms.map (·.template))[i]? = some m.template := by rw [List.getElem?_map, hm]; rfl
  have hn' : (ms.map (·.template))[j]? = some n.template := by rw [List.getElem?_map, hn]; rfl
  exact (pair_subperm hm' hn' hij).trans htemplates.subperm

/-- **Which matches of one rank are in one collision.** Let a product have at most one tag and at
most one collection, and take two of its matches of one rank. They are in one collision unless they
are for a vendor or a tag and their templates share no value as it is spelled; even then the
templates name that vendor or tag in values which are the same in small letters. -/
theorem reported_iff (hall : Match.all templates p = .ok ms)
    (htags : ∀ vs, p.tags = .ok vs → vs.length ≤ 1)
    (hcollections : ∀ vs, p.collections = .ok vs → vs.length ≤ 1)
    (hm : ms[i]? = some m) (hn : ms[j]? = some n) (hij : i ≠ j)
    (hrank : m.template.scope.rank = n.template.scope.rank) :
    ((∃ c ∈ all templates, [m.template, n.template].Subperm c.templates) ↔
      (m.template.scope = .vendor ∨ m.template.scope = .tag →
        ∃ v ∈ m.template.scopeValues, v ∈ n.template.scopeValues)) ∧
    (m.template.scope = .vendor ∨ m.template.scope = .tag →
      ∃ v ∈ m.template.scopeValues, ∃ w ∈ n.template.scopeValues, lower v = lower w) := by
  have hpair := pair_of_matches hall hm hn hij
  have hscope := Scope.eq_of_rank_eq hrank
  have hfor : ∀ s ∈ [m.template, n.template], s.isFor p = true := fun s hs =>
    (List.mem_filter.1 (hpair.subset hs)).2
  have hmfor := hfor m.template (by simp)
  have hnfor := hfor n.template (by simp)
  rw [exists_collision_iff (hpair.trans List.filter_sublist.subperm)
    (Template.isFor_iff.1 hmfor).1 (Template.isFor_iff.1 hnfor).1,
    Template.exists_shared_key_iff hscope]
  by_cases hglobal : m.template.scope = .global
  · simp [hglobal]
  obtain ⟨v, hv, hvfact⟩ := (Template.exists_hasFact hmfor).resolve_left hglobal
  obtain ⟨w, hw, hwfact⟩ := (Template.exists_hasFact hnfor).resolve_left (hscope ▸ hglobal)
  rw [← hscope] at hwfact
  by_cases hfolded : m.template.scope = .vendor ∨ m.template.scope = .tag
  · refine ⟨?_, fun _ => ⟨v, hv, w, hw, hvfact.lower_eq hfolded htags hwfact⟩⟩
    rw [or_iff_right hglobal]
    exact ⟨fun h _ => h, fun h => h hfolded⟩
  · refine ⟨iff_of_true (.inr ?_) fun h => absurd h hfolded, fun h => absurd h hfolded⟩
    have hexact : m.template.scope = .product ∨ m.template.scope = .collection := by
      revert hglobal hfolded
      cases m.template.scope <;> simp
    exact ⟨v, hv, hvfact.eq hexact hcollections hwfact ▸ hw⟩

end

/-! ### Templates for one tag -/

/-- Two templates for tags, the first of which names one tag in one spelling. -/
def forTags (values : List String) : List Template :=
  [.bare "a" .tag ["Sale"] none, .bare "b" .tag values none]

/-- Both are matches of the product with a tag, in their order, if the second one is for it. -/
lemma all_forTags (values : List String)
    (h : (Template.bare "b" .tag values none).isFor Match.tagged = true) :
    Match.all (forTags values) Match.tagged =
      .ok ((forTags values).map (Match.of Match.tagged)) := by
  have hfor : (forTags values).filter (·.isFor Match.tagged) = forTags values := by
    rw [List.filter_eq_self]
    simp only [forTags, List.forall_mem_cons]
    exact ⟨by decide +kernel, h, by simp⟩
  have htime : ∀ t ∈ forTags values, t.HasTime := by
    simp only [forTags, List.forall_mem_cons]
    exact ⟨⟨_, rfl⟩, ⟨_, rfl⟩, by simp⟩
  have hsorted : sortedBy Template.key (forTags values) = forTags values := by
    refine List.mergeSort_of_pairwise (List.pairwise_pair.2 (decide_eq_true ?_))
    exact le_refl (Template.bare "a" .tag ["Sale"] none).key
  rw [Match.all_eq Match.wellFormed_tagged (by rwa [hfor]), hfor, hsorted]

/-- The product with a tag has one tag at most, and one collection at most. -/
lemma length_tagged : (∀ vs, Match.tagged.tags = .ok vs → vs.length ≤ 1) ∧
    ∀ vs, Match.tagged.collections = .ok vs → vs.length ≤ 1 :=
  ⟨fun _ h => Except.ok.inj h ▸ by decide, fun _ h => Except.ok.inj h ▸ by decide⟩

/-- Two matches for a tag are in one collision if their templates share a spelling of it. -/
theorem reported_iff_forTags :
    ∃ ms m n, Match.all (forTags ["sale", "Sale"]) Match.tagged = .ok ms ∧
      (∀ vs, Match.tagged.tags = .ok vs → vs.length ≤ 1) ∧
      (∀ vs, Match.tagged.collections = .ok vs → vs.length ≤ 1) ∧
      ms[0]? = some m ∧ ms[1]? = some n ∧ m.template.scope.rank = n.template.scope.rank ∧
      ∃ c ∈ all (forTags ["sale", "Sale"]), [m.template, n.template].Subperm c.templates := by
  have hall := all_forTags ["sale", "Sale"] (by decide +kernel)
  obtain ⟨htags, hcollections⟩ := length_tagged
  refine ⟨_, _, _, hall, htags, hcollections, rfl, rfl, rfl, ?_⟩
  refine (reported_iff hall htags hcollections (i := 0) (j := 1) rfl rfl (by decide) rfl).1.2 ?_
  exact fun _ => ⟨"Sale", .head _, .tail _ (.head _)⟩

/-- **Two matches of one rank that are in no collision**, since their templates name one tag in
different spellings. -/
theorem not_reported_spelled :
    ∃ ms m n, Match.all (forTags ["sale"]) Match.tagged = .ok ms ∧
      (∀ vs, Match.tagged.tags = .ok vs → vs.length ≤ 1) ∧
      (∀ vs, Match.tagged.collections = .ok vs → vs.length ≤ 1) ∧
      ms[0]? = some m ∧ ms[1]? = some n ∧ m.template.scope.rank = n.template.scope.rank ∧
      ¬∃ c ∈ all (forTags ["sale"]), [m.template, n.template].Subperm c.templates := by
  have hall := all_forTags ["sale"] (by decide +kernel)
  have hnone : (all (forTags ["sale"])).isEmpty = true := by decide +kernel
  refine ⟨_, _, _, hall, length_tagged.1, length_tagged.2, rfl, rfl, rfl, ?_⟩
  rintro ⟨c, hc, -⟩
  rw [List.isEmpty_iff.1 hnone] at hc
  exact List.not_mem_nil hc

end Collision

end Tariff
