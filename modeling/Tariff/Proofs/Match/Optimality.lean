import Tariff.Proofs.Match.Ranking

/-!
# The best match

The matches of a product are its templates in the order of their ranking, and the one that prices
the product is one that no other template for the product beats.

## Main results

* `Tariff.Match.all_eq`, `Tariff.Match.best?_eq` — matches and the best one, by sorted keys.
* `Tariff.Match.all_best_first` — the matches are ranked, and the best one is optimal.
-/

set_option autoImplicit false

namespace Tariff.Match

variable {p : Product} {t : Template} {ts us : List Template}

/-- The templates of the matches of some templates are these. -/
lemma map_template_map_of : (ts.map (Match.of p)).map (·.template) = ts := by
  rw [List.map_map]
  exact List.map_id ts

/-- The matches of a product are those of its templates, by their keys. -/
lemma all_eq (hp : p.WellFormed) (htime : ∀ t ∈ ts.filter (·.isFor p), t.HasTime) :
    all ts p = .ok ((sortedBy Template.key (ts.filter (·.isFor p))).map (Match.of p)) := by
  refine all_eq_ok_iff.2 ⟨fun _ _ _ => Template.exists_reasonFor hp, fun t ht hfor => ?_, ?_⟩
  · exact htime t (List.mem_filter.2 ⟨ht, hfor⟩)
  · rw [mergeSort_map_of htime]

/-- The best match is the template of the greatest key. -/
lemma best?_eq (hp : p.WellFormed) (htime : ∀ t ∈ ts.filter (·.isFor p), t.HasTime) :
    best? ts p = .ok (sortedBy Template.key (ts.filter (·.isFor p))).head? := by
  rw [best?, all_eq hp htime]
  change Except.ok ((List.map _ _).head?.map _) = _
  rw [← List.head?_map, map_template_map_of]

/-! ### Templates in the order of their keys -/

/-- The templates that tie with one of them are those with its key. -/
lemma filter_ties (htime : ∀ t ∈ ts, t.HasTime) (ht : t ∈ ts) (hus : ∀ u ∈ us, u ∈ ts) :
    us.filter (fun u => t.Ties u) = us.filter fun u => u.key = t.key := by
  refine List.filter_congr fun u hu => ?_
  rw [decide_eq_decide, Template.ties_iff (htime t ht) (htime u (hus u hu)), eq_comm]

/-- By their keys, a template that beats another one comes before it. -/
lemma pairwise_beats_or_ties (htime : ∀ t ∈ ts, t.HasTime) :
    (sortedBy Template.key ts).Pairwise fun a b => a.Beats b ∨ a.Ties b :=
  pairwise_sortedBy.imp_of_mem fun ha hb hle =>
    (Template.beats_or_ties_iff (htime _ (sortedBy_perm.mem_iff.1 ha))
      (htime _ (sortedBy_perm.mem_iff.1 hb))).2 hle

/-- By their keys, templates that tie keep their order. -/
lemma filter_ties_sortedBy (htime : ∀ t ∈ ts, t.HasTime) (ht : t ∈ ts) :
    (sortedBy Template.key ts).filter (fun u => t.Ties u) = ts.filter fun u => t.Ties u := by
  rw [filter_ties htime ht fun u hu => sortedBy_perm.mem_iff.1 hu,
    filter_ties htime ht fun u hu => hu, filter_sortedBy]

/-- By their keys, none beats the first one, and of those that tie with it none is before it. -/
lemma optimal_of_head? (htime : ∀ t ∈ ts, t.HasTime)
    (h : (sortedBy Template.key ts).head? = some t) :
    t ∈ ts ∧ (∀ u ∈ ts, ¬u.Beats t) ∧ ts.find? (fun u => t.Ties u) = some t := by
  obtain ⟨ht, hgreatest, hfirst⟩ := find?_of_head?_sortedBy h
  refine ⟨ht, fun u hu hbeats => ?_, ?_⟩
  · have hlt := (Template.beats_iff (htime u hu) (htime t ht)).1 hbeats
    exact absurd (hgreatest u hu) (not_le_of_gt hlt)
  · rw [← List.head?_filter, filter_ties htime ht fun u hu => hu, List.head?_filter, hfirst]

/-- Where no two templates tie, their order does not matter. -/
lemma sortedBy_key_eq_of_perm (htime : ∀ t ∈ ts, t.HasTime)
    (hties : ts.Pairwise fun a b => ¬a.Ties b) (h : ts.Perm us) :
    sortedBy Template.key ts = sortedBy Template.key us := by
  have hkeys : (ts.map Template.key).Nodup :=
    List.pairwise_map.2 <| hties.imp_of_mem fun ha hb hne =>
      (Template.ties_iff (htime _ ha) (htime _ hb)).not.1 hne
  exact sortedBy_eq_of_perm h hkeys

/-! ### Matches -/

/-- **The matches of a product are ranked, and the best one is optimal.** For a well-formed product
and templates whose creation can be told, there is an answer. Its templates are the active ones
with a reason to be for the product, each as often as it is given; they come with their reasons, a
template that beats another one comes before it, and templates that tie keep their order. There is
no best one only if no template is for the product; else it is one that none beats, and the first
one of those that tie with it. Where no two tie, the order of the templates does not matter. -/
theorem all_best_first (hp : p.WellFormed) (htime : ∀ t ∈ ts, t.isFor p = true → t.HasTime) :
    ∃ ms best, all ts p = .ok ms ∧ best? ts p = .ok best ∧
      (ms.map (·.template)).Perm (ts.filter (·.isFor p)) ∧
      (∀ m ∈ ms, m.template.reasonFor p = .ok (some m.reason)) ∧
      (ms.map (·.template)).Pairwise (fun a b => a.Beats b ∨ a.Ties b) ∧
      (∀ t ∈ ts, t.isFor p = true → (ms.map (·.template)).filter (fun u => t.Ties u) =
        (ts.filter (·.isFor p)).filter fun u => t.Ties u) ∧
      (best = none ↔ ∀ t ∈ ts, t.isFor p = false) ∧
      (∀ t, best = some t → t ∈ ts ∧ t.isFor p = true ∧
        (∀ u ∈ ts, u.isFor p = true → ¬u.Beats t) ∧
        (ts.filter (·.isFor p)).find? (fun u => t.Ties u) = some t) ∧
      ((ts.filter (·.isFor p)).Pairwise (fun a b => ¬a.Ties b) →
        ∀ us, ts.Perm us → all us p = .ok ms ∧ best? us p = .ok best) := by
  have hdated : ∀ t ∈ ts.filter (·.isFor p), t.HasTime := fun t ht =>
    htime t (List.mem_filter.1 ht).1 (List.mem_filter.1 ht).2
  have hin : ∀ t ∈ ts, t.isFor p = true → t ∈ ts.filter (·.isFor p) := fun t ht hfor =>
    List.mem_filter.2 ⟨ht, hfor⟩
  refine ⟨_, _, all_eq hp hdated, best?_eq hp hdated, ?_, ?_, ?_, ?_, ?_, ?_, ?_⟩
  · rw [map_template_map_of]
    exact sortedBy_perm
  · intro m hm
    obtain ⟨t, ht, rfl⟩ := List.mem_map.1 hm
    exact Template.reasonFor_eq (List.mem_filter.1 (sortedBy_perm.mem_iff.1 ht)).2
  · rw [map_template_map_of]
    exact pairwise_beats_or_ties hdated
  · intro t ht hfor
    rw [map_template_map_of]
    exact filter_ties_sortedBy hdated (hin t ht hfor)
  · rw [List.head?_eq_none_iff, ← List.length_eq_zero_iff, sortedBy_perm.length_eq,
      List.length_eq_zero_iff, List.filter_eq_nil_iff]
    simp
  · intro t hbest
    obtain ⟨ht, hgreatest, hfirst⟩ := optimal_of_head? hdated hbest
    obtain ⟨hmem, hfor⟩ := List.mem_filter.1 ht
    exact ⟨hmem, hfor, fun u hu hufor => hgreatest u (hin u hu hufor), hfirst⟩
  · intro hties us hperm
    have hfilter := hperm.filter (·.isFor p)
    have hus : ∀ t ∈ us.filter (·.isFor p), t.HasTime := fun t ht =>
      hdated t (hfilter.mem_iff.2 ht)
    rw [all_eq hp hus, best?_eq hp hus, sortedBy_key_eq_of_perm hdated hties hfilter]
    exact ⟨rfl, rfl⟩

/-- A product with a tag. -/
def tagged : Product :=
  ⟨.ok none, .ok none, .ok ["SALE"], .ok []⟩

lemma wellFormed_tagged : tagged.WellFormed :=
  ⟨⟨_, rfl⟩, ⟨_, rfl⟩, ⟨_, rfl⟩, ⟨_, rfl⟩⟩

/-- Templates for all products, and for a tag in two spellings. -/
def spelled : List Template :=
  [.bare "all" .global [] none, .bare "old" .tag ["Sale"] none,
    .bare "new" .tag ["sale"] (some ⟨⟨2024, 1, 1, 0, 0, 0, 0, some 0⟩, by decide⟩)]

/-- Of templates for a tag and for all products, each one is a match and none beats the best. -/
theorem all_best_first_spelled :
    tagged.WellFormed ∧ (∀ t ∈ spelled, t.isFor tagged = true → t.HasTime) ∧
      ∃ ms t, all spelled tagged = .ok ms ∧ best? spelled tagged = .ok (some t) ∧
        (ms.map (·.template.id)).Perm ["all", "old", "new"] ∧
        (ms.map (·.template)).Pairwise (fun a b => a.Beats b ∨ a.Ties b) ∧
        ∀ u ∈ spelled, u.isFor tagged = true → ¬u.Beats t := by
  have htime : ∀ t ∈ spelled, t.isFor tagged = true → t.HasTime := by
    simp only [spelled, List.forall_mem_cons]
    exact ⟨fun _ => ⟨_, rfl⟩, fun _ => ⟨_, rfl⟩, fun _ => ⟨_, rfl⟩, by simp⟩
  have hids : (spelled.filter (·.isFor tagged)).map (·.id) = ["all", "old", "new"] := by
    decide +kernel
  obtain ⟨ms, best, hall, hbest, hperm, -, hranked, -, hnone, hoptimal, -⟩ :=
    all_best_first wellFormed_tagged htime
  refine ⟨wellFormed_tagged, htime, ms, ?_⟩
  cases best with
  | none =>
    have hfirst := hnone.1 rfl (.bare "all" .global [] none) List.mem_cons_self
    exact absurd hfirst (by decide)
  | some t =>
    refine ⟨t, hall, hbest, ?_, hranked, (hoptimal t rfl).2.2.1⟩
    rw [← hids]
    simpa [Function.comp_def] using hperm.map (·.id)

end Tariff.Match
