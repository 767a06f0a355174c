import Mathlib.Data.Int.Order.Basic
import Mathlib.Data.List.FinRange
import Mathlib.Data.Set.BooleanAlgebra
import Mathlib.Data.Sym.Sym2
import Mathlib.Order.CompletePartialOrder
import Tariff.Catalog
import Tariff.Proofs.Sorting

/-!
# Tiers and the quantities they cover

A tier covers an interval of quantities. Of the tiers that cover a quantity the one counts that
starts last, and where several start there, the first of them. Two tiers overlap iff they have a
quantity in common; the search for overlaps looks at starts and ends only, which is enough for tiers
that do not end before they start.

## Main definitions

* `Tariff.Tier.quantities` — the quantities that a tier covers.
* `Tariff.Tier.IsProper` — a tier does not end before it starts.
* `Tariff.Tier.relatedPairs` — the pairs of an element of a list and a later one that are related.

## Main results

* `Tariff.Tier.find?_optimal` — the tier that counts is the one that starts last.
* `Tariff.Tier.overlaps_eq_map` — overlaps are found at pairs of places.
* `Tariff.Tier.overlaps_exact` — these are all pairs of places with a quantity in common.
* `Tariff.Tier.tierProblems_eq_nil_iff` — the tiers that pass the check of a template.
-/

set_option autoImplicit false

namespace Tariff

namespace Tier

variable {tiers others : List Tier} {t u : Tier} {n : Int}

/-! ### Quantities -/

/-- The quantities that a tier covers. -/
def quantities (t : Tier) : Set Int :=
  {n | t.minimum ≤ n ∧ ∀ most ∈ t.maximum, n ≤ most}

/-- A tier contains the quantities that it covers. -/
lemma contains_iff : t.contains n = true ↔ n ∈ t.quantities := by
  cases h : t.maximum <;> simp [contains, quantities, h]

/-! ### The tier that counts -/

/-- Tiers are tried from the last start on. -/
lemma descending_eq : descending tiers = sortedBy minimum tiers :=
  rfl

/-- The tier that counts covers the quantity. Of the others that cover it, those before it in the
list start earlier, and those after it start no later. -/
lemma find?_eq_some_iff : find? tiers n = some t ↔
    n ∈ t.quantities ∧ ∃ before after, tiers = before ++ t :: after ∧
      (∀ u ∈ before, n ∈ u.quantities → u.minimum < t.minimum) ∧
      ∀ u ∈ after, n ∈ u.quantities → u.minimum ≤ t.minimum := by
  rw [find?, descending_eq, find?_sortedBy_eq_some_iff]
  simp only [contains_iff]

/-- The tier that counts is one of the tiers, and covers the quantity. -/
lemma mem_of_find? (h : find? tiers n = some t) : t ∈ tiers ∧ n ∈ t.quantities := by
  obtain ⟨hn, before, after, rfl, -⟩ := find?_eq_some_iff.1 h
  exact ⟨by simp, hn⟩

/-- No tier counts iff none covers the quantity. -/
lemma find?_eq_none_iff : find? tiers n = none ↔ ∀ t ∈ tiers, n ∉ t.quantities := by
  rw [find?, descending_eq, List.find?_eq_none]
  simp only [contains_iff, sortedBy_perm.mem_iff]

/-- Where a tier covers the quantity, a tier counts that starts no earlier. -/
lemma exists_find?_of_mem (hu : u ∈ tiers) (hn : n ∈ u.quantities) :
    ∃ t, find? tiers n = some t ∧ u.minimum ≤ t.minimum := by
  cases h : find? tiers n with
  | none => exact absurd hn (find?_eq_none_iff.1 h u hu)
  | some t =>
    rw [find?, descending_eq] at h
    exact ⟨t, rfl, (greatest_of_find?_sortedBy h).1 u hu (contains_iff.2 hn)⟩

/-- Where no two tiers start together, the order of the tiers does not matter. -/
lemma find?_eq_of_perm (h : tiers.Perm others) (hstarts : (tiers.map minimum).Nodup) :
    find? others n = find? tiers n := by
  rw [find?, find?, descending_eq, descending_eq, sortedBy_eq_of_perm h hstarts]

/-- The discount is that of the tier that counts, and else zero. -/
lemma discountFor_eq : discountFor tiers n = ((find? tiers n).map discount).getD 0.0 := by
  unfold discountFor
  cases find? tiers n with
  | none => rfl
  | some t => rfl

/-- **The tier that counts is the one that starts last.** For all tiers and every quantity, no tier
counts iff none covers the quantity. A tier counts iff it covers the quantity, those before it in
the list that cover it too start earlier, and those after it start no later. The discount is that
of the tier that counts, and zero if there is none. Where no two tiers start together, the order of
the tiers does not matter. -/
theorem find?_optimal (tiers : List Tier) (n : Int) :
    (find? tiers n = none ↔ ∀ t ∈ tiers, n ∉ t.quantities) ∧
    (∀ t, find? tiers n = some t ↔
      n ∈ t.quantities ∧ ∃ before after, tiers = before ++ t :: after ∧
        (∀ u ∈ before, n ∈ u.quantities → u.minimum < t.minimum) ∧
        ∀ u ∈ after, n ∈ u.quantities → u.minimum ≤ t.minimum) ∧
    discountFor tiers n = ((find? tiers n).map discount).getD 0.0 ∧
    ((tiers.map minimum).Nodup → ∀ others, tiers.Perm others →
      find? others n = find? tiers n ∧ discountFor others n = discountFor tiers n) := by
  refine ⟨find?_eq_none_iff, fun t => find?_eq_some_iff, discountFor_eq, ?_⟩
  intro hstarts others hperm
  have hfind : find? others n = find? tiers n := find?_eq_of_perm hperm hstarts
  exact ⟨hfind, by rw [discountFor_eq, discountFor_eq, hfind]⟩

/-- A discount for up to ten pieces, and a greater one from five pieces on. -/
def twoTiers : List Tier :=
  [⟨1, some 10, 5.0⟩, ⟨5, none, 12.0⟩]

/-- Seven pieces are covered by both tiers, and the one from five on counts in every order. -/
theorem find?_optimal_twoTiers : (twoTiers.map minimum).Nodup ∧
    ∀ others, twoTiers.Perm others →
      find? others 7 = some ⟨5, none, 12.0⟩ ∧ discountFor others 7 = 12.0 := by
  have hstarts : (twoTiers.map minimum).Nodup := by decide
  obtain ⟨-, hfind, hdiscount, hperm⟩ := find?_optimal twoTiers 7
  have hcovers : (7 : Int) ∈ (⟨5, none, 12.0⟩ : Tier).quantities := contains_iff.1 rfl
  have hfive : find? twoTiers 7 = some ⟨5, none, 12.0⟩ := by
    refine (hfind _).2 ⟨hcovers, [⟨1, some 10, 5.0⟩], [], rfl, ?_, by simp⟩
    intro u hu _
    obtain rfl := List.mem_singleton.1 hu
    decide
  refine ⟨hstarts, fun others h => ?_⟩
  obtain ⟨hothers, hsame⟩ := hperm hstarts others h
  rw [hothers, hsame, hdiscount, hfive]
  exact ⟨rfl, rfl⟩

/-! ### Pairs of a list -/

section

variable {α : Type} {r : α → α → Bool} {Q : α → α → Prop} {l : List α} {a b : α}

/-- The pairs of an element of a list and a later one that are related. -/
def relatedPairs (r : α → α → Bool) : List α → List (α × α)
  | [] => []
  | a :: rest => (rest.filter (r a)).map (a, ·) ++ relatedPairs r rest

/-- The pair of two elements without its order. -/
def unordered (p : α × α) : Sym2 α :=
  s(p.1, p.2)

/-- The elements of a pair stand in the list in their order. -/
lemma sublist_of_mem_relatedPairs {p : α × α} (h : p ∈ relatedPairs r l) :
    [p.1, p.2].Sublist l := by
  induction l with
  | nil => cases h
  | cons c l ih =>
    rw [relatedPairs, List.mem_append, List.mem_map] at h
    rcases h with ⟨d, hd, rfl⟩ | h
    · exact (List.singleton_sublist.2 (List.mem_filter.1 hd).1).cons_cons c
    · exact (ih h).cons c

/-- Where a symmetric relation is the one of each element and the later ones, the related pairs are
those of two different elements that are so related. -/
lemma mem_relatedPairs_iff (hl : l.Nodup) (hsymm : ∀ a b, Q a b → Q b a)
    (h : l.Pairwise fun a b => r a b = true ↔ Q a b) :
    s(a, b) ∈ (relatedPairs r l).map unordered ↔ a ∈ l ∧ b ∈ l ∧ a ≠ b ∧ Q a b := by
  induction l with
  | nil => simp [relatedPairs]
  | cons c l ih =>
    rw [List.nodup_cons] at hl
    rw [List.pairwise_cons] at h
    have hfirst : s(a, b) ∈ ((l.filter (r c)).map (c, ·)).map unordered ↔
        ∃ d ∈ l, Q c d ∧ (a = c ∧ b = d ∨ a = d ∧ b = c) := by
      simp only [List.map_map, List.mem_map, List.mem_filter, Function.comp_apply, unordered,
        Sym2.eq_iff]
      constructor
      · rintro ⟨d, ⟨hd, hr⟩, hpair⟩
        refine ⟨d, hd, (h.1 d hd).1 hr, ?_⟩
        grind
      · rintro ⟨d, hd, hQ, hpair⟩
        refine ⟨d, ⟨hd, (h.1 d hd).2 hQ⟩, ?_⟩
        grind
    rw [relatedPairs, List.map_append, List.mem_append, hfirst, ih hl.2 h.2]
    constructor
    · rintro (⟨d, hd, hQ, ⟨rfl, rfl⟩ | ⟨rfl, rfl⟩⟩ | ⟨ha, hb, hne, hQ⟩)
      · exact ⟨by simp, by simp [hd], fun heq => hl.1 (heq ▸ hd), hQ⟩
      · exact ⟨by simp [hd], by simp, fun heq => hl.1 (heq ▸ hd), hsymm _ _ hQ⟩
      · exact ⟨by simp [ha], by simp [hb], hne, hQ⟩
    · rintro ⟨ha, hb, hne, hQ⟩
      rcases List.mem_cons.1 ha with rfl | ha'
      · have hb' : b ∈ l := (List.mem_cons.1 hb).resolve_left (Ne.symm hne)
        exact .inl ⟨b, hb', hQ, .inl ⟨rfl, rfl⟩⟩
      · rcases List.mem_cons.1 hb with rfl | hb'
        · exact .inl ⟨a, ha', hsymm _ _ hQ, .inr ⟨rfl, rfl⟩⟩
        · exact .inr ⟨ha', hb', hne, hQ⟩

/-- In a list without repetitions no two elements are related in two pairs. -/
lemma nodup_relatedPairs (hl : l.Nodup) : ((relatedPairs r l).map unordered).Nodup := by
  induction l with
  | nil => exact List.nodup_nil
  | cons c l ih =>
    rw [List.nodup_cons] at hl
    rw [relatedPairs, List.map_append, List.nodup_append]
    refine ⟨?_, ih hl.2, ?_⟩
    · rw [List.map_map]
      refine (hl.2.filter _).map fun a b hab => ?_
      exact Sym2.congr_right.1 hab
    · -- a pair with `c` is not one of elements of the rest
      intro x hx y hy hxy
      obtain ⟨d, -, rfl⟩ := List.mem_map.1 (List.map_map ▸ hx)
      obtain ⟨p, hp, rfl⟩ := List.mem_map.1 hy
      have hmem : c ∈ unordered p := hxy ▸ Sym2.mem_mk_left c d
      refine hl.1 ((sublist_of_mem_relatedPairs hp).subset ?_)
      simpa using Sym2.mem_iff.1 hmem

end

/-! ### Overlaps -/

/-- A tier does not end before it starts. -/
def IsProper (t : Tier) : Prop :=
  ∀ most ∈ t.maximum, t.minimum ≤ most

/-- A tier reaches the start of one that does not start before it iff they have a quantity in
common: if they have any, the start of the later one is among them. -/
lemma reaches_iff (hu : u.IsProper) (hstart : t.minimum ≤ u.minimum) :
    t.reaches u = true ↔ (t.quantities ∩ u.quantities).Nonempty := by
  have hreach : t.reaches u = true ↔ ∀ most ∈ t.maximum, u.minimum ≤ most := by
    cases h : t.maximum <;> simp [reaches, h]
  rw [hreach]
  constructor
  · intro h
    exact ⟨u.minimum, ⟨hstart, h⟩, le_rfl, hu⟩
  · rintro ⟨n, ⟨-, hmost⟩, hleast, -⟩ most hm
    exact hleast.trans (hmost most hm)

/-- Tiers pass the check iff each of them starts at no negative quantity, does not end before it
starts, and gives a discount between nothing and all. -/
lemma tierProblems_eq_nil_iff {place : Nat} : tierProblems place tiers = [] ↔
    ∀ t ∈ tiers, 0 ≤ t.minimum ∧ t.IsProper ∧ 0.0 ≤ t.discount ∧ t.discount ≤ 100.0 := by
  induction tiers generalizing place with
  | nil => simp [tierProblems]
  | cons t rest ih =>
    have hproper : t.maximum.any (· < t.minimum) = true ↔ ¬t.IsProper := by
      cases h : t.maximum <;> simp [IsProper, h]
    simp only [tierProblems, List.append_eq_nil_iff, ih, List.forall_mem_cons, hproper,
      ite_eq_left_iff, ite_eq_right_iff, List.cons_ne_nil, imp_false, not_not, not_lt, and_assoc]

/-- The places of tiers, from the earliest start on. -/
def placesByStart (tiers : List Tier) : List (Fin tiers.length) :=
  sortedBy (fun i => OrderDual.toDual tiers[i].minimum) (List.finRange tiers.length)

/-- The pairs of places at which overlaps are found. -/
def overlapPlaces (tiers : List Tier) : List (Fin tiers.length × Fin tiers.length) :=
  relatedPairs (fun i j => tiers[i].reaches tiers[j]) (placesByStart tiers)

/-- The tiers in the order of their starts are those at the places in that order. -/
lemma ascending_eq : ascending tiers = (placesByStart tiers).map fun i => tiers[i] := by
  calc
    ascending tiers = sortedBy (fun t => OrderDual.toDual t.minimum) tiers := rfl
    _ = sortedBy (fun t => OrderDual.toDual t.minimum)
          ((List.finRange tiers.length).map fun i => tiers[i]) := by
      rw [show (List.finRange tiers.length).map (fun i => tiers[i]) = tiers from
        List.map_getElem_finRange tiers]
    _ = (placesByStart tiers).map fun i => tiers[i] := sortedBy_map _ _

/-- A search for pairs among tiers is one among what they come from. -/
lemma reachingPairs_map {α : Type} (f : α → Tier) (l : List α) : reachingPairs (l.map f) =
    (relatedPairs (fun a b => (f a).reaches (f b)) l).map fun p => (f p.1, f p.2) := by
  induction l with
  | nil => rfl
  | cons a l ih =>
    rw [List.map_cons, reachingPairs, ih, relatedPairs, List.map_append, List.filter_map,
      List.map_map, List.map_map]
    rfl

/-- Overlaps are found at pairs of places. -/
lemma overlaps_eq_map :
    overlaps tiers = (overlapPlaces tiers).map fun p => (tiers[p.1], tiers[p.2]) := by
  rw [overlaps, ascending_eq, reachingPairs_map]
  rfl

/-- No place comes up twice. -/
lemma nodup_placesByStart : (placesByStart tiers).Nodup :=
  sortedBy_perm.nodup_iff.2 (List.nodup_finRange _)

/-- No two places are found twice. -/
lemma nodup_overlapPlaces : ((overlapPlaces tiers).map unordered).Nodup :=
  nodup_relatedPairs nodup_placesByStart

/-- The places that are found are those of tiers with a quantity in common. -/
lemma mem_overlapPlaces_iff (hproper : ∀ t ∈ tiers, t.IsProper) {i j : Fin tiers.length} :
    s(i, j) ∈ (overlapPlaces tiers).map unordered ↔
      i ≠ j ∧ (tiers[i].quantities ∩ tiers[j].quantities).Nonempty := by
  have hmem : ∀ k, k ∈ placesByStart tiers := fun k =>
    sortedBy_perm.mem_iff.2 (List.mem_finRange k)
  have hreaches : (placesByStart tiers).Pairwise fun i j =>
      tiers[i].reaches tiers[j] = true ↔
        (tiers[i].quantities ∩ tiers[j].quantities).Nonempty := by
    refine pairwise_sortedBy.imp ?_
    intro i j hstart
    exact reaches_iff (hproper tiers[j] (List.getElem_mem _)) hstart
  have hsymm : ∀ i j : Fin tiers.length, (tiers[i].quantities ∩ tiers[j].quantities).Nonempty →
      (tiers[j].quantities ∩ tiers[i].quantities).Nonempty := by
    intro i j h
    rwa [Set.inter_comm]
  rw [overlapPlaces, mem_relatedPairs_iff nodup_placesByStart hsymm hreaches]
  simp only [hmem, true_and]

/-- Of two tiers that overlap, the one in front starts no later. -/
lemma minimum_le_of_mem_overlaps {p : Tier × Tier} (h : p ∈ overlaps tiers) :
    p.1 ∈ tiers ∧ p.2 ∈ tiers ∧ p.1.minimum ≤ p.2.minimum := by
  rw [overlaps_eq_map, List.mem_map] at h
  obtain ⟨⟨i, j⟩, hij, rfl⟩ := h
  have hstarts := pairwise_sortedBy.sublist (sublist_of_mem_relatedPairs hij)
  refine ⟨List.getElem_mem _, List.getElem_mem _, ?_⟩
  simpa using hstarts

/-- Where no overlaps are found, no quantity is covered twice. -/
lemma disjoint_of_overlaps_eq_nil (hproper : ∀ t ∈ tiers, t.IsProper) (h : overlaps tiers = []) :
    tiers.Pairwise fun t u => Disjoint t.quantities u.quantities := by
  have hplaces : overlapPlaces tiers = [] := by
    rw [overlaps_eq_map] at h
    exact List.map_eq_nil_iff.1 h
  rw [List.pairwise_iff_getElem]
  intro i j hi hj hij
  rw [Set.disjoint_iff_inter_eq_empty, ← Set.not_nonempty_iff_eq_empty]
  intro hcommon
  have hfound : s(⟨i, hi⟩, ⟨j, hj⟩) ∈ (overlapPlaces tiers).map unordered := by
    refine (mem_overlapPlaces_iff hproper).2 ⟨?_, hcommon⟩
    simpa using hij.ne
  rw [hplaces] at hfound
  cases hfound

/-- Where no quantity is covered twice, the order of the tiers does not matter. -/
lemma find?_eq_of_disjoint (hperm : tiers.Perm others)
    (h : tiers.Pairwise fun t u => Disjoint t.quantities u.quantities) :
    find? others n = find? tiers n := by
  cases hfind : find? tiers n with
  | none =>
    rw [find?_eq_none_iff] at hfind ⊢
    intro t ht
    exact hfind t (hperm.mem_iff.2 ht)
  | some t =>
    obtain ⟨ht, hn⟩ := mem_of_find? hfind
    obtain ⟨u, hfindOther, -⟩ := exists_find?_of_mem (hperm.mem_iff.1 ht) hn
    obtain ⟨hu, hn'⟩ := mem_of_find? hfindOther
    rw [hfindOther]
    by_contra hne
    have hsymm : Std.Symm fun t u : Tier => Disjoint t.quantities u.quantities :=
      ⟨fun _ _ h => h.symm⟩
    have hdisjoint := h.forall ht (hperm.mem_iff.2 hu) fun heq => hne (congrArg some heq.symm)
    exact Set.disjoint_left.1 hdisjoint hn hn'

/-- **Overlaps are exact.** Take tiers that do not end before they start. Overlaps are found at
pairs of places, none of them twice, and these are all pairs of two different places whose tiers
have a quantity in common. In each overlap the tier in front starts no later than the other one, and
on the quantities they share a tier counts that starts no earlier than either of them. Where no
overlaps are found, no quantity is covered twice, and the order of the tiers does not matter.

**Proof sketch.** In the order of the starts, a tier has a quantity in common with a later one iff
it reaches its start (`reaches_iff`). So the pairs that are found are those of a symmetric relation
(`mem_relatedPairs_iff`), whatever the order of tiers that start together. -/
theorem overlaps_exact (hproper : ∀ t ∈ tiers, t.IsProper) :
    (∃ places : List (Fin tiers.length × Fin tiers.length),
      overlaps tiers = places.map (fun p => (tiers[p.1], tiers[p.2])) ∧
      (places.map unordered).Nodup ∧
      ∀ i j, s(i, j) ∈ places.map unordered ↔
        i ≠ j ∧ (tiers[i].quantities ∩ tiers[j].quantities).Nonempty) ∧
    (∀ p ∈ overlaps tiers, p.1.minimum ≤ p.2.minimum ∧
      ∀ n ∈ p.1.quantities ∩ p.2.quantities,
        ∃ t, find? tiers n = some t ∧ p.2.minimum ≤ t.minimum) ∧
    (overlaps tiers = [] → tiers.Pairwise (fun t u => Disjoint t.quantities u.quantities) ∧
      ∀ n others, tiers.Perm others → find? others n = find? tiers n) := by
  refine ⟨⟨overlapPlaces tiers, overlaps_eq_map, nodup_overlapPlaces, fun i j =>
    mem_overlapPlaces_iff hproper⟩, ?_, ?_⟩
  · intro p hp
    obtain ⟨-, hmem, hstart⟩ := minimum_le_of_mem_overlaps hp
    exact ⟨hstart, fun n hn => exists_find?_of_mem hmem hn.2⟩
  · intro h
    have hdisjoint := disjoint_of_overlaps_eq_nil hproper h
    exact ⟨hdisjoint, fun n others hperm => find?_eq_of_disjoint hperm hdisjoint⟩

/-- The two tiers pass the check and overlap, and in their overlap the one that starts last
counts. -/
theorem overlaps_exact_twoTiers : (∀ t ∈ twoTiers, t.IsProper) ∧
    (overlaps twoTiers).map (fun p => (p.1.minimum, p.2.minimum)) = [(1, 5)] ∧
    ∀ n, 5 ≤ n → n ≤ 10 → ∃ t, find? twoTiers n = some t ∧ 5 ≤ t.minimum := by
  have hcheck : tierProblems 1 twoTiers = [] := List.isEmpty_iff.1 (by decide +kernel)
  have hproper : ∀ t ∈ twoTiers, t.IsProper := fun t ht =>
    (tierProblems_eq_nil_iff.1 hcheck t ht).2.1
  obtain ⟨-, hcounts, -⟩ := overlaps_exact hproper
  have hsorted : ascending twoTiers = twoTiers := List.mergeSort_of_pairwise (by decide)
  have hpair : overlaps twoTiers = [(⟨1, some 10, 5.0⟩, ⟨5, none, 12.0⟩)] := by
    rw [overlaps, hsorted]
    rfl
  refine ⟨hproper, by rw [hpair]; rfl, fun n hleast hmost => ?_⟩
  refine (hcounts (⟨1, some 10, 5.0⟩, ⟨5, none, 12.0⟩) (by simp [hpair])).2 n ⟨?_, ?_⟩
  · exact ⟨Int.le_trans (by decide) hleast, by simpa using hmost⟩
  · exact ⟨hleast, by simp⟩

end Tier

end Tariff
