import Mathlib.Data.List.Nodup
import Mathlib.Data.List.Pairwise
import Mathlib.Order.Lattice

/-!
# Sorting by a key

A list is sorted by a key in a linear order, from the greatest key to the least. Elements of one key
keep their order, so a search in the sorted list ends at the first element of the greatest key.

## Main definitions

* `Tariff.sortedBy` — a list sorted by a key.

## Main results

* `Tariff.filter_sortedBy` — elements of one key keep their order.
* `Tariff.find?_sortedBy_eq_some_iff` — what a search in a sorted list finds.
* `Tariff.sortedBy_eq_of_perm` — where no two keys are equal, the order of the list is irrelevant.
* `Tariff.sortedBy_map` — sorting elements is sorting what they come from.
-/

set_option autoImplicit false

namespace Tariff

variable {α β κ : Type} [LinearOrder κ] {key : α → κ} {l l' : List α} {a : α} {p : α → Bool}

/-- A list sorted by a key, from the greatest key to the least. -/
def sortedBy (key : α → κ) (l : List α) : List α :=
  l.mergeSort fun a b => decide (key b ≤ key a)

/-- Sorting loses nothing and repeats nothing. -/
lemma sortedBy_perm : (sortedBy key l).Perm l :=
  List.mergeSort_perm _ _

/-- The comparison of keys is transitive. -/
lemma decide_key_trans (key : α → κ) (a b c : α) (hab : decide (key b ≤ key a) = true)
    (hbc : decide (key c ≤ key b) = true) : decide (key c ≤ key a) = true :=
  decide_eq_true (le_trans (of_decide_eq_true hbc) (of_decide_eq_true hab))

/-- The comparison of keys is total. -/
lemma decide_key_total (key : α → κ) (a b : α) :
    (decide (key b ≤ key a) || decide (key a ≤ key b)) = true := by
  simpa using le_total (key b) (key a)

/-- A greater key is not after a smaller one. -/
lemma pairwise_sortedBy : (sortedBy key l).Pairwise fun a b => key b ≤ key a :=
  (List.pairwise_mergeSort (decide_key_trans key) (decide_key_total key) l).imp of_decide_eq_true

/-- Sorting elements by a key is sorting what they come from by the keys of the elements. -/
lemma sortedBy_map (f : β → α) (m : List β) :
    sortedBy key (m.map f) = (sortedBy (fun b => key (f b)) m).map f := by
  symm
  apply List.map_mergeSort
  intro b _ c _
  rfl

/-- **Elements with one key keep their order.**

**Proof sketch.** They are a sorted part of the list, so they are also part of the sorted list, and
there are as many of them in both. -/
lemma filter_sortedBy (k : κ) :
    (sortedBy key l).filter (fun a => key a = k) = l.filter fun a => key a = k := by
  have hpart : (l.filter fun a => key a = k).Sublist (sortedBy key l) := by
    refine List.sublist_mergeSort (decide_key_trans key) (decide_key_total key) ?_
      List.filter_sublist
    refine List.pairwise_of_forall_mem_list fun a ha b hb => ?_
    simp only [List.mem_filter, decide_eq_true_eq] at ha hb
    rw [ha.2, hb.2]
    exact decide_eq_true le_rfl
  have hfilter := hpart.filter fun a => key a = k
  rw [List.filter_filter] at hfilter
  simp only [Bool.and_self] at hfilter
  exact (hfilter.eq_of_length ((sortedBy_perm.filter _).length_eq).symm).symm

/-- What a search in a sorted list finds has the greatest key of all that it looks for, and it is
the first such element of the list. -/
lemma greatest_of_find?_sortedBy (h : (sortedBy key l).find? p = some a) :
    (∀ b ∈ l, p b = true → key b ≤ key a) ∧
      l.find? (fun b => p b && decide (key b = key a)) = some a := by
  obtain ⟨ha, front, rest, hsplit, hfront⟩ := List.find?_eq_some_iff_append.1 h
  have hfront : ∀ b ∈ front, p b = false := fun b hb => by simpa using hfront b hb
  constructor
  · intro b hb hpb
    have hsorted : (sortedBy key l).Pairwise fun a b => key b ≤ key a := pairwise_sortedBy
    rw [hsplit, List.pairwise_append, List.pairwise_cons] at hsorted
    have hmem : b ∈ sortedBy key l := sortedBy_perm.mem_iff.2 hb
    rw [hsplit, List.mem_append, List.mem_cons] at hmem
    rcases hmem with hb | rfl | hb
    · rw [hfront b hb] at hpb
      cases hpb
    · exact le_rfl
    · exact hsorted.2.1.1 b hb
  · rw [← List.head?_filter, ← List.filter_filter, ← filter_sortedBy, List.filter_filter,
      List.head?_filter, hsplit]
    refine List.find?_eq_some_iff_append.2 ⟨by simp [ha], front, rest, rfl, fun b hb => ?_⟩
    rw [hfront b hb]
    rfl

/-- **What a search in a sorted list finds.** Of the elements that it looks for, those before it in
the list have a smaller key, and those after it have no greater one.

**Proof sketch.** What is found is as described (`greatest_of_find?_sortedBy`). Conversely something
is found where an element is as described, and both have the greatest key and are the first with
it. -/
theorem find?_sortedBy_eq_some_iff : (sortedBy key l).find? p = some a ↔
    p a = true ∧ ∃ before after, l = before ++ a :: after ∧
      (∀ b ∈ before, p b = true → key b < key a) ∧ ∀ b ∈ after, p b = true → key b ≤ key a := by
  constructor
  · intro h
    obtain ⟨hgreatest, hfirst⟩ := greatest_of_find?_sortedBy h
    obtain ⟨-, before, after, rfl, hbefore⟩ := List.find?_eq_some_iff_append.1 hfirst
    refine ⟨List.find?_some h, before, after, rfl, fun b hb hpb => ?_, fun b hb => ?_⟩
    · have hne : key b ≠ key a := by simpa [hpb] using hbefore b hb
      exact lt_of_le_of_ne (hgreatest b (by simp [hb]) hpb) hne
    · exact hgreatest b (by simp [hb])
  · rintro ⟨ha, before, after, hl, hbefore, hafter⟩
    have hgreatest : ∀ b ∈ l, p b = true → key b ≤ key a := by
      intro b hb hpb
      rw [hl, List.mem_append, List.mem_cons] at hb
      rcases hb with hb | rfl | hb
      · exact le_of_lt (hbefore b hb hpb)
      · exact le_rfl
      · exact hafter b hb hpb
    have hfirst : l.find? (fun b => p b && decide (key b = key a)) = some a := by
      refine List.find?_eq_some_iff_append.2 ⟨by simp [ha], before, after, hl, fun b hb => ?_⟩
      cases hpb : p b with
      | false => rfl
      | true => simp [ne_of_lt (hbefore b hb hpb)]
    have hmem : a ∈ l := by simp [hl]
    cases hfind : (sortedBy key l).find? p with
    | none => exact absurd ha (List.find?_eq_none.1 hfind a (sortedBy_perm.mem_iff.2 hmem))
    | some b =>
      obtain ⟨hgreatest', hfirst'⟩ := greatest_of_find?_sortedBy hfind
      have hb : b ∈ l := List.mem_of_find?_eq_some hfirst'
      have hkey : key b = key a :=
        le_antisymm (hgreatest b hb (List.find?_some hfind)) (hgreatest' a hmem ha)
      rw [hkey] at hfirst'
      exact hfirst'.symm.trans hfirst

/-- What is first has the greatest key, and it is the first of the list with that key. -/
lemma find?_of_head?_sortedBy (h : (sortedBy key l).head? = some a) :
    a ∈ l ∧ (∀ b ∈ l, key b ≤ key a) ∧ l.find? (fun b => key b = key a) = some a := by
  have hfind : (sortedBy key l).find? (fun _ => true) = some a := by
    rw [← List.head?_filter, List.filter_true, h]
  obtain ⟨hgreatest, hfirst⟩ := greatest_of_find?_sortedBy hfind
  refine ⟨List.mem_of_find?_eq_some hfirst, fun b hb => hgreatest b hb rfl, ?_⟩
  simpa using hfirst

/-- Where no two keys are equal, the order of the list does not matter. -/
lemma sortedBy_eq_of_perm (h : l.Perm l') (hkeys : (l.map key).Nodup) :
    sortedBy key l = sortedBy key l' := by
  refine List.Perm.eq_of_pairwise (fun a b ha hb hab hba => ?_) pairwise_sortedBy pairwise_sortedBy
    (sortedBy_perm.trans (h.trans sortedBy_perm.symm))
  exact List.inj_on_of_nodup_map hkeys (sortedBy_perm.mem_iff.1 ha)
    (h.mem_iff.2 (sortedBy_perm.mem_iff.1 hb)) (le_antisymm hba hab)

end Tariff
