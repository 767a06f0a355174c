import Mathlib.Data.List.Basic
import Mathlib.Data.List.Induction
import Mathlib.Tactic.Lemma
import Tariff.Value

/-!
# Members of objects

Which names an object has, and which values, after members have been assigned or removed.

## Main definitions

* `Tariff.without` — the members of other names.
* `Tariff.latest?` — the last value that is given for a name.

## Main results

* `Tariff.isSome_lookup?_iff` — a name is found iff the object has it.
* `Tariff.mem_keys_assign`, `Tariff.mem_of_mem_assign` — the names and members after an assignment.
* `Tariff.mem_keys_foldl_assign`, `Tariff.mem_of_mem_foldl_assign` — the same after several.
* `Tariff.lookup?_assign`, `Tariff.lookup?_foldl_assign` — what is found after an assignment.
* `Tariff.lookup?_without_self`, `Tariff.lookup?_without` — what is found after a removal.
* `Tariff.lookup?_map`, `Tariff.assign_map` — members whose values are given by a function.
* `Tariff.foldl_assign_eq` — what several assignments leave: the first place of each name and the
  last value.
-/

set_option autoImplicit false

namespace Tariff

/-- The members of other names than the given one. -/
def without {α : Type} (name : String) (members : List (String × α)) : List (String × α) :=
  members.filter fun m => m.1 != name

/-- The last value that is given for a name. -/
def latest? {α : Type} (name : String) (members : List (String × α)) : Option α :=
  (members.filter (·.1 == name)).getLast?.map (·.2)

/-! ### Repetitions -/

/-- What is left of a list without its repetitions has none. -/
lemma nodup_eraseDups {α : Type} [BEq α] [LawfulBEq α] : ∀ l : List α, l.eraseDups.Nodup
  | [] => by simp
  | a :: l => by
    rw [List.eraseDups_cons, List.nodup_cons]
    exact ⟨by simp [List.mem_eraseDups], nodup_eraseDups (l.filter fun b => !b == a)⟩
termination_by l => l.length
decreasing_by exact Nat.lt_succ_of_le (List.length_filter_le _ _)

/-- A list without repetitions is left as it is. -/
lemma eraseDups_of_nodup {α : Type} [BEq α] [LawfulBEq α] {l : List α} (h : l.Nodup) :
    l.eraseDups = l := by
  induction l with
  | nil => rfl
  | cons a l ih =>
    obtain ⟨ha, hl⟩ := List.nodup_cons.1 h
    have hfilter : l.filter (fun b => !b == a) = l := by
      rw [List.filter_eq_self]
      intro b hb
      have hne : b ≠ a := by
        rintro rfl
        exact ha hb
      simpa using hne
    rw [List.eraseDups_cons, hfilter, ih hl]

/-- One more element is a repetition, or it is left as the last one. -/
lemma eraseDups_append_singleton {α : Type} [BEq α] [LawfulBEq α] [DecidableEq α] (l : List α)
    (a : α) : (l ++ [a]).eraseDups =
      if a ∈ l.eraseDups then l.eraseDups else l.eraseDups ++ [a] := by
  rw [List.eraseDups_append, List.cons_removeAll, List.nil_removeAll]
  by_cases h : a ∈ l
  · simp [h]
  · simp [h, List.eraseDups_cons]

/-! ### One assignment or removal -/

variable {α : Type} {name key : String} {v : α} {m : String × α}
  {members others : List (String × α)}

/-- A value that is found is that of a member. -/
lemma mem_of_lookup? (h : lookup? name members = some v) : (name, v) ∈ members := by
  rw [lookup?, Option.map_eq_some_iff] at h
  obtain ⟨m, hfind, rfl⟩ := h
  have hname : m.1 = name := by simpa using List.find?_some hfind
  rw [← hname]
  exact List.mem_of_find?_eq_some hfind

/-- A name is found iff it is the name of a member. -/
lemma isSome_lookup?_iff : (lookup? name members).isSome = true ↔ name ∈ members.map (·.1) := by
  rw [lookup?, Option.isSome_map, List.find?_isSome, List.mem_map]
  constructor
  · rintro ⟨m, hm, hname⟩
    exact ⟨m, hm, by simpa using hname⟩
  · rintro ⟨m, hm, hname⟩
    exact ⟨m, hm, by simpa using hname⟩

/-- An assignment adds its name and no other. -/
lemma mem_keys_assign :
    key ∈ (assign name v members).map (·.1) ↔ key = name ∨ key ∈ members.map (·.1) := by
  induction members with
  | nil => simp [assign]
  | cons m members ih =>
    rw [assign]
    by_cases hname : m.1 == name
    · rw [if_pos hname, List.map_cons, List.map_cons, List.mem_cons, List.mem_cons]
      have hname : m.1 = name := by simpa using hname
      rw [hname, ← or_assoc, or_self]
    · rw [if_neg hname, List.map_cons, List.map_cons, List.mem_cons, List.mem_cons, ih,
        or_left_comm]

/-- After an assignment there is the assigned member, and there are members from before. -/
lemma mem_of_mem_assign (h : m ∈ assign name v members) : m = (name, v) ∨ m ∈ members := by
  induction members with
  | nil => exact .inl (by simpa [assign] using h)
  | cons a members ih =>
    rw [assign] at h
    by_cases hname : a.1 == name
    · rw [if_pos hname, List.mem_cons] at h
      rcases h with h | h
      · exact .inl h
      · exact .inr (List.mem_cons_of_mem _ h)
    · rw [if_neg hname, List.mem_cons] at h
      rcases h with rfl | h
      · exact .inr List.mem_cons_self
      · exact (ih h).imp id (List.mem_cons_of_mem _)

/-- Assignments add their names and no other. -/
lemma mem_keys_foldl_assign :
    key ∈ (others.foldl (fun ms m => assign m.1 m.2 ms) members).map (·.1) ↔
      key ∈ others.map (·.1) ∨ key ∈ members.map (·.1) := by
  induction others generalizing members with
  | nil => simp
  | cons o others ih =>
    rw [List.foldl_cons, ih, mem_keys_assign, List.map_cons, List.mem_cons, or_left_comm,
      or_assoc]

/-- After assignments there are assigned members and members from before. -/
lemma mem_of_mem_foldl_assign (h : m ∈ others.foldl (fun ms m => assign m.1 m.2 ms) members) :
    m ∈ others ∨ m ∈ members := by
  induction others generalizing members with
  | nil => exact .inr h
  | cons o others ih =>
    rcases ih h with h | h
    · exact .inl (List.mem_cons_of_mem _ h)
    · rcases mem_of_mem_assign h with rfl | h
      · exact .inl List.mem_cons_self
      · exact .inr h

/-- After an assignment the assigned value is found under its name, and under another name the same
as before. -/
lemma lookup?_assign : lookup? key (assign name v members) =
    if key = name then some v else lookup? key members := by
  induction members with
  | nil =>
    by_cases hkey : key = name
    · simp [lookup?, assign, hkey]
    · simp [lookup?, assign, hkey, Ne.symm hkey]
  | cons m members ih =>
    rw [lookup?] at ih
    by_cases hname : m.1 = name
    · by_cases hkey : key = name
      · simp [lookup?, assign, hname, hkey]
      · simp [lookup?, assign, hname, hkey, Ne.symm hkey]
    · by_cases hkey : m.1 = key
      · have hne : key ≠ name := hkey ▸ hname
        simp [lookup?, assign, hkey, hne]
      · simpa [lookup?, assign, hname, hkey] using ih

/-- Assignments under other names leave what is found. -/
lemma lookup?_foldl_assign (h : ∀ m ∈ others, m.1 ≠ key) :
    lookup? key (others.foldl (fun ms m => assign m.1 m.2 ms) members) = lookup? key members := by
  induction others generalizing members with
  | nil => rfl
  | cons o others ih =>
    obtain ⟨ho, hothers⟩ := List.forall_mem_cons.1 h
    rw [List.foldl_cons, ih hothers, lookup?_assign, if_neg (Ne.symm ho)]

/-- A name that has been removed is not found. -/
lemma lookup?_without_self : lookup? name (without name members) = none := by
  rw [lookup?, without, Option.map_eq_none_iff, List.find?_eq_none]
  intro m hm
  simpa using (List.mem_filter.1 hm).2

/-- Under another name the same is found as before the removal. -/
lemma lookup?_without (h : key ≠ name) :
    lookup? key (without name members) = lookup? key members := by
  rw [lookup?, lookup?, without, List.find?_filter]
  congr 2
  funext m
  by_cases hkey : m.1 = key
  · simp [hkey, h]
  · simp [hkey]

section

variable {keys : List String} {f : String → α}

/-- Where the values are given by a function, that value is found. -/
lemma lookup?_map :
    lookup? key (keys.map fun k => (k, f k)) = if key ∈ keys then some (f key) else none := by
  induction keys with
  | nil => rfl
  | cons k keys ih =>
    rw [lookup?] at ih ⊢
    by_cases hk : k = key
    · simp [hk]
    · have hne : key ≠ k := Ne.symm hk
      simpa [hk, hne] using ih

/-- Where the values are given by a function and no name is repeated, an assignment changes the
function in one place. -/
lemma assign_map (hkeys : keys.Nodup) :
    assign key v (keys.map fun k => (k, f k)) =
      (if key ∈ keys then keys else keys ++ [key]).map
        fun k => (k, if k = key then v else f k) := by
  induction keys with
  | nil => simp [assign]
  | cons k keys ih =>
    obtain ⟨hk, hkeys⟩ := List.nodup_cons.1 hkeys
    rw [List.map_cons, assign]
    by_cases heq : k = key
    · subst heq
      have hother : ∀ a ∈ keys, f a = if a = k then v else f a := by
        intro a ha
        have hne : a ≠ k := by
          rintro rfl
          exact hk ha
        rw [if_neg hne]
      simpa using hother
    · have hne : key ≠ k := Ne.symm heq
      simp only [beq_iff_eq, heq, if_false, ih hkeys, List.mem_cons, hne, false_or]
      split <;> simp [heq]

end

/-! ### One assignment after the other -/

/-- An assignment keeps the order of the names, and a new one comes last. -/
lemma keys_assign : (assign name v members).map (·.1) =
    if name ∈ members.map (·.1) then members.map (·.1) else members.map (·.1) ++ [name] := by
  induction members with
  | nil => simp [assign]
  | cons m members ih =>
    rw [assign]
    by_cases hname : m.1 = name
    · simp [hname]
    · have hne : name ≠ m.1 := Ne.symm hname
      rw [if_neg (by simpa using hname), List.map_cons, ih, List.map_cons]
      simp only [List.mem_cons, hne, false_or]
      split <;> rfl

/-- The names after assignments stand in the order in which they come up first. -/
lemma keys_foldl_assign (members : List (String × α)) :
    (members.foldl (fun ms m => assign m.1 m.2 ms) []).map (·.1) =
      (members.map (·.1)).eraseDups := by
  induction members using List.reverseRecOn with
  | nil => rfl
  | append_singleton members m ih =>
    rw [List.foldl_append, List.foldl_cons, List.foldl_nil, keys_assign, ih, List.map_append,
      List.map_singleton, eraseDups_append_singleton]

/-- The value of one more member is the last one for its name. -/
lemma latest?_append_singleton :
    latest? key (members ++ [m]) = if key = m.1 then some m.2 else latest? key members := by
  rw [latest?, List.filter_append]
  by_cases hkey : key = m.1
  · simp [hkey]
  · have hne : m.1 ≠ key := Ne.symm hkey
    simp [hkey, hne, latest?]

/-- After assignments the last value for a name is found. -/
lemma lookup?_foldl_assign_nil (members : List (String × α)) :
    lookup? key (members.foldl (fun ms m => assign m.1 m.2 ms) []) = latest? key members := by
  induction members using List.reverseRecOn with
  | nil => rfl
  | append_singleton members m ih =>
    rw [List.foldl_append, List.foldl_cons, List.foldl_nil, lookup?_assign, ih,
      latest?_append_singleton]

/-- Members without repeated names are given by what is found under their names. -/
lemma eq_filterMap_lookup? (h : (members.map (·.1)).Nodup) :
    members = (members.map (·.1)).filterMap fun k => (lookup? k members).map (k, ·) := by
  induction members with
  | nil => rfl
  | cons m members ih =>
    obtain ⟨hm, hmembers⟩ := List.nodup_cons.1 h
    have hself : lookup? m.1 (m :: members) = some m.2 := by simp [lookup?]
    have hothers : ∀ k ∈ members.map (·.1), lookup? k (m :: members) = lookup? k members := by
      intro k hk
      have hne : m.1 ≠ k := by
        rintro rfl
        exact hm hk
      simp [lookup?, hne]
    rw [List.map_cons, List.filterMap_cons, hself, Option.map_some,
      List.filterMap_congr fun k hk => congrArg (Option.map (k, ·)) (hothers k hk), ← ih hmembers]

/-- Where no name is repeated, the value of each member is found under its name. -/
lemma lookup?_of_mem (hnodup : (members.map (·.1)).Nodup) (hm : m ∈ members) :
    lookup? m.1 members = some m.2 := by
  rw [eq_filterMap_lookup? hnodup, List.mem_filterMap] at hm
  obtain ⟨k, -, hk⟩ := hm
  obtain ⟨v, hv, rfl⟩ := Option.map_eq_some_iff.1 hk
  exact hv

/-- Assignments leave a member for each name, in the order in which the names come up first, with
the last value for the name. -/
theorem foldl_assign_eq (members : List (String × α)) :
    members.foldl (fun ms m => assign m.1 m.2 ms) [] =
      (members.map (·.1)).eraseDups.filterMap fun k => (latest? k members).map (k, ·) := by
  have hkeys := keys_foldl_assign members
  have heq := eq_filterMap_lookup? (hkeys ▸ nodup_eraseDups _)
  rw [hkeys] at heq
  simpa only [lookup?_foldl_assign_nil] using heq

end Tariff
