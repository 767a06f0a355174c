import Tariff.Proofs.Overflow
import Tariff.Snapshot

/-!
# Malformed entries of a snapshot

An entry that is malformed is left out and reported, and the others load as if it were not there.
The exception is an entry in which something overflows: its fault may not be confined to the entry,
or the label under which it would be reported cannot be written, and then nothing is loaded at all.

## Main definitions

* `Tariff.Snapshot.Stops` — the faults with which an entry stops the reading.
* `Tariff.Snapshot.isConfined` — an entry is a template, or there is a report on its fault.
* `Tariff.Snapshot.template?`, `Tariff.Snapshot.report?` — what an entry adds to a snapshot.
* `Tariff.Snapshot.loaded` — what some entries add.

## Main results

* `Tariff.Template.overflowsOnly_ofValue` — which entries have a fault that is not confined.
* `Tariff.Snapshot.ofEntries_eq_ok_iff`, `Tariff.Snapshot.ofEntries_eq_error_iff` — how the reading
  of entries ends.
* `Tariff.Snapshot.isolates_confined` — confined faults are isolated, and no others.
-/

set_option autoImplicit false

namespace Tariff

/-! ### Faults of entries -/

/-- What is wrong with a type of field is confined, unless it overflows. -/
lemma FieldType.overflowsOnly_ofValue {v : Value} {name : Option Value}
    (h : ∀ u, name = some u → v.Holds u) : v.OverflowsOnly (FieldType.ofValue name) := by
  rw [FieldType.ofValue]
  refine (Value.overflowsOnly_shownOr h _).bind fun s _ => ?_
  dsimp only
  split
  · exact .ok _ _
  · exact .error _ rfl

/-- What is wrong with a scope is confined, unless it overflows. -/
lemma Scope.overflowsOnly_ofValue {v : Value} {name : Option Value}
    (h : ∀ u, name = some u → v.Holds u) : v.OverflowsOnly (Scope.ofValue name) := by
  rw [Scope.ofValue]
  refine (Value.overflowsOnly_shownOr h _).bind fun s _ => ?_
  dsimp only
  split
  · exact .ok _ _
  · exact .error _ rfl

/-- What is wrong with an option is confined, unless something in it overflows. -/
lemma FieldOption.overflowsOnly_ofValue (v : Value) :
    v.OverflowsOnly (FieldOption.ofValue v) := by
  rw [FieldOption.ofValue]
  refine .find_read (fun _ h => Value.overflowsOnly_shownOr h _) fun value => ?_
  refine .find_read (fun _ h => Value.overflowsOnly_shownOr h _) fun label => ?_
  refine .get fun modifier hmodifier => ?_
  refine (v.overflowsOnly_find "price").bind fun price hprice => ?_
  have hread : v.Holds (price.getD modifier) := by
    cases price with
    | none => exact hmodifier
    | some price => exact Value.holds_of_find hprice
  exact ((Value.overflowsOnly_toFloat? _).of_holds hread).bind fun _ _ => .ok _ _

/-- A label that is given is shown, if nothing inside of it overflows. -/
lemma Field.overflowsOnly_labelOf (given : Value) (key : String) :
    given.OverflowsOnly (Field.labelOf given key) := by
  rw [Field.labelOf]
  split
  · exact .ok _ _
  · exact given.overflowsOnly_shown

/-- What is wrong with a field is confined, unless something in it overflows. -/
lemma Field.overflowsOnly_ofValue (v : Value) (place : Nat) :
    v.OverflowsOnly (Field.ofValue v place) := by
  rw [Field.ofValue]
  refine .get_read Value.overflowsOnly_toText? fun key => ?_
  split
  · refine .get_items fun options hoptions => ?_
    refine .bind (.mapM_read FieldOption.overflowsOnly_ofValue hoptions) fun _ _ => ?_
    refine .get_read Value.overflowsOnly_toInt? fun _ => ?_
    refine .find_read (fun _ h => FieldType.overflowsOnly_ofValue h) fun type => ?_
    refine .get_read (fun given => overflowsOnly_labelOf given _) fun label => ?_
    refine .get_read (fun u => u.overflowsOnly_toBool _) fun _ => ?_
    exact .get_read (fun u => u.overflowsOnly_toBool _) fun _ => .ok _ _
  · exact .error _ rfl

/-- What is wrong with the fields of a value is confined, unless something in it overflows. -/
lemma Field.overflowsOnly_ofValues {v : Value} {vs : List Value} (place : Nat)
    (h : ∀ u ∈ vs, v.Holds u) : v.OverflowsOnly (Field.ofValues place vs) := by
  induction vs generalizing place with
  | nil => exact .ok _ _
  | cons u vs ih =>
    rw [List.forall_mem_cons] at h
    rw [Field.ofValues]
    refine .bind ((Field.overflowsOnly_ofValue u place).of_holds h.1) fun _ _ => ?_
    exact (ih _ h.2).bind fun _ _ => .ok _ _

/-- What is wrong with a tier is confined, unless something in it overflows. -/
lemma Tier.overflowsOnly_ofValue (v : Value) : v.OverflowsOnly (Tier.ofValue v) := by
  rw [Tier.ofValue]
  refine .require_read Value.overflowsOnly_toInt fun _ => ?_
  refine .get_read Value.overflowsOnly_toInt? fun _ => ?_
  exact .require_read Value.overflowsOnly_toFloat fun _ => .ok _ _

namespace Template

variable {v : Value}

/-- The fields of the sections of a template are looked for, perhaps in vain. -/
lemma overflowsOnly_sectionFields (s : Value) :
    s.OverflowsOnly (do (← s.get "fields").itemsIfAny) :=
  .get fun fields hfields => fields.overflowsOnly_itemsIfAny.of_holds hfields

/-- The fields of a template are looked for, perhaps in vain. -/
lemma overflowsOnly_fieldValues (v : Value) : v.OverflowsOnly (fieldValues v) := by
  rw [fieldValues]
  refine .get_items fun own _ => .get_items fun sections hsections => ?_
  exact .bind (.mapM_read overflowsOnly_sectionFields hsections) fun _ _ => .ok _ _

/-- A template holds its fields. -/
lemma holds_of_fieldValues {us : List Value} (h : fieldValues v = .ok us) :
    ∀ u ∈ us, v.Holds u := by
  obtain ⟨fields, hfields, h⟩ := bind_eq_ok.1 h
  obtain ⟨own, hown, h⟩ := bind_eq_ok.1 h
  obtain ⟨sections, hsections, h⟩ := bind_eq_ok.1 h
  obtain ⟨items, hitems, h⟩ := bind_eq_ok.1 h
  obtain ⟨inSections, hinSections, h⟩ := bind_eq_ok.1 h
  obtain rfl := Except.ok.inj h
  intro u hu
  rcases List.mem_append.1 hu with hu | hu
  · exact (Value.holds_of_get hfields).trans (Value.holds_of_itemsIfAny hown u hu)
  · obtain ⟨us, hus, hu⟩ := List.mem_flatten.1 hu
    obtain ⟨s, hs, hinner⟩ := exists_of_mem_mapM hinSections hus
    obtain ⟨inner, hget, hinner⟩ := bind_eq_ok.1 hinner
    have hsection := (Value.holds_of_get hsections).trans (Value.holds_of_itemsIfAny hitems s hs)
    exact hsection.trans ((Value.holds_of_get hget).trans (Value.holds_of_itemsIfAny hinner u hu))

/-- **Which entries have a fault that is not confined.** Only those with an overflow inside of them,
and the fault is that of the overflow.

**Proof sketch.** The members are gone through in the order in which they are read. Each reader
overflows only in its own value, and the entry holds the overflows of that. -/
lemma overflowsOnly_ofValue (v : Value) : v.OverflowsOnly (ofValue v) := by
  rw [ofValue]
  refine .get_read Value.overflowsOnly_toText? fun id => ?_
  split
  case h_2 => exact .error _ rfl
  refine .get fun formula hformula => ?_
  split
  · exact .error _ rfl
  refine (overflowsOnly_fieldValues v).bind fun fields hfields => ?_
  refine .bind (Field.overflowsOnly_ofValues 0 (holds_of_fieldValues hfields)) fun _ _ => ?_
  refine .get_items fun tiers htiers => ?_
  refine .bind (.mapM_read Tier.overflowsOnly_ofValue htiers) fun _ _ => ?_
  refine .get_read Value.overflowsOnly_toText? fun name => ?_
  refine .bind (formula.overflowsOnly_shown.of_holds hformula) fun _ _ => ?_
  refine .find_read (fun _ h => Scope.overflowsOnly_ofValue h) fun scope => ?_
  refine .get_items fun values hvalues => ?_
  refine .bind (.mapM_read Value.overflowsOnly_shown hvalues) fun _ _ => ?_
  refine .get_read (fun u => u.overflowsOnly_toBool _) fun isActive => ?_
  refine .get_read Value.overflowsOnly_toText? fun description => ?_
  refine .get_read (fun u => u.overflowsOnly_toBool _) fun hasExpressOption => ?_
  refine .get_read Value.overflowsOnly_toFloat? fun expressMultiplier => ?_
  refine .get_read Value.overflowsOnly_toText? fun expressLabel => ?_
  refine .get_read Value.overflowsOnly_toText? fun normalLabel => ?_
  refine .get_read Value.overflowsOnly_toInt? fun minQuantity => ?_
  refine .get_read Value.overflowsOnly_toInt? fun maxQuantity => ?_
  refine .get_read Value.overflowsOnly_toText? fun minQuantityMessage => ?_
  refine .get_read Value.overflowsOnly_toText? fun maxQuantityMessage => ?_
  refine .get_read Value.overflowsOnly_toInt? fun priority => ?_
  exact .get_read Value.overflowsOnly_toMoment? fun createdAt => .ok _ _

end Template

/-! ### Reading of entries -/

namespace Snapshot

variable {v : Value} {before after : List Value} {place : Nat} {cause : Fault} {s : Snapshot}

/-- The faults with which an entry stops the reading. -/
inductive Stops (v : Value) : Fault → Prop where
  /-- the fault of the entry is not confined to it -/
  | unconfined {cause : Fault} (hv : Template.ofValue v = .error cause)
    (h : cause.isConfined = false) : Stops v cause
  /-- the entry is no template, and the label to report it under cannot be written -/
  | unlabelled {fault cause : Fault} (hv : Template.ofValue v = .error fault)
    (hfault : fault.isConfined = true) (h : entryLabel v 0 = .error cause) : Stops v cause

/-- An entry is a template, or there is a report on its fault. -/
def isConfined (v : Value) : Bool :=
  match Template.ofValue v with
  | .ok _ => true
  | .error cause => (report v 0 cause).isOk

/-- The template that an entry adds to a snapshot, if it is one. -/
def template? (v : Value) : Option Template :=
  (Template.ofValue v).toOption

/-- The report that an entry at a place adds to a snapshot, if it is no template. -/
def report? (entry : Value × Nat) : Option Error :=
  match Template.ofValue entry.1 with
  | .ok _ => none
  | .error cause => (report entry.1 entry.2 cause).toOption

/-- The templates among some entries in their order, and a report on each other one. -/
def loaded (place : Nat) (vs : List Value) : Snapshot :=
  ⟨vs.filterMap template?, (vs.zipIdx place).filterMap report?⟩

/-! ### Labels -/

/-- Whether a label can be written does not depend on the place. -/
lemma entryLabel_eq_error_iff :
    entryLabel v place = .error cause ↔ entryLabel v 0 = .error cause := by
  cases v with
  | object members =>
    simp only [entryLabel]
    cases lookup? "id" members with
    | none => exact iff_of_false nofun nofun
    | some id => exact Iff.rfl
  | _ => exact iff_of_false nofun nofun

/-- A label cannot be written because of an overflow inside of the entry. -/
lemma overflows_of_entryLabel (h : entryLabel v place = .error cause) : v.Overflows cause := by
  cases v with
  | object members =>
    rw [entryLabel] at h
    cases hid : lookup? "id" members with
    | none =>
      rw [hid] at h
      cases h
    | some id =>
      rw [hid] at h
      have hfind : (Value.object members).find "id" = .ok (some id) := congrArg _ hid
      exact Value.holds_of_find hfind (Value.overflows_of_shown h)
  | _ => cases h

/-- There is no report on an entry that stops the reading. -/
lemma stops_iff (place : Nat) : Stops v cause ↔
    ∃ fault, Template.ofValue v = .error fault ∧ report v place fault = .error cause := by
  constructor
  · rintro (⟨hv, h⟩ | ⟨hv, hfault, h⟩)
    · exact ⟨cause, hv, by rw [report, h]; rfl⟩
    · refine ⟨_, hv, ?_⟩
      rw [report, if_pos hfault, map_eq_error]
      exact entryLabel_eq_error_iff.2 h
  · rintro ⟨fault, hv, h⟩
    cases hfault : fault.isConfined with
    | false =>
      rw [report, hfault] at h
      obtain rfl := Except.error.inj h
      exact .unconfined hv hfault
    | true =>
      rw [report, if_pos hfault, map_eq_error] at h
      exact .unlabelled hv hfault (entryLabel_eq_error_iff.1 h)

/-- **What stops the reading is an overflow** inside of an entry. -/
lemma Stops.overflows (h : Stops v cause) : v.Overflows cause := by
  cases h with
  | unconfined hv h =>
    refine (Template.overflowsOnly_ofValue v cause hv).resolve_left ?_
    simp [h]
  | unlabelled hv hfault h => exact overflows_of_entryLabel h

/-- An entry stops the reading iff it is not confined. -/
lemma isConfined_eq_false_iff : isConfined v = false ↔ ∃ cause, Stops v cause := by
  rw [isConfined]
  cases hv : Template.ofValue v with
  | ok t => simp [stops_iff 0, hv]
  | error fault =>
    cases hreport : report v 0 fault with
    | ok error => simp [stops_iff 0, hv, hreport, Except.isOk, Except.toBool]
    | error cause => simp [stops_iff 0, hv, hreport, Except.isOk, Except.toBool]

/-- There is a report on each entry that is confined and no template. -/
lemma isSome_report?_iff (h : isConfined v = true) (place : Nat) :
    (report? (v, place)).isSome = true ↔ template? v = none := by
  rw [report?, template?]
  cases hv : Template.ofValue v with
  | ok t => simp [Except.toOption]
  | error fault =>
    cases hreport : report v place fault with
    | ok error => simp [hreport, Except.toOption]
    | error cause =>
      have hstops := isConfined_eq_false_iff.2 ⟨cause, (stops_iff _).2 ⟨fault, hv, hreport⟩⟩
      rw [h] at hstops
      cases hstops

/-! ### The whole reading -/

/-- The entries after one that is confined are read as if it were not there. -/
lemma ofEntries_cons (h : isConfined v = true) (vs : List Value) :
    ofEntries place (v :: vs) = (ofEntries (place + 1) vs).map fun others =>
      ⟨(template? v).toList ++ others.templates, (report? (v, place)).toList ++ others.errors⟩ := by
  rw [ofEntries, template?, report?]
  cases hv : Template.ofValue v with
  | ok t => cases ofEntries (place + 1) vs <;> rfl
  | error fault =>
    cases hreport : report v place fault with
    | ok error =>
      simp only [hreport]
      cases ofEntries (place + 1) vs <;> rfl
    | error cause =>
      have hstops := isConfined_eq_false_iff.2 ⟨cause, (stops_iff _).2 ⟨fault, hv, hreport⟩⟩
      rw [h] at hstops
      cases hstops

/-- Entries that are confined are loaded. -/
lemma ofEntries_of_isConfined {vs : List Value} (h : ∀ v ∈ vs, isConfined v = true) :
    ofEntries place vs = .ok (loaded place vs) := by
  induction vs generalizing place with
  | nil => rfl
  | cons v vs ih =>
    rw [List.forall_mem_cons] at h
    rw [ofEntries_cons h.1, ih h.2]
    simp only [loaded, List.zipIdx_cons, List.filterMap_cons]
    cases template? v <;> cases report? (v, place) <;> rfl

/-- The first entry that is not confined stops the reading. -/
lemma ofEntries_of_stops (hbefore : ∀ u ∈ before, isConfined u = true) (hv : Stops v cause) :
    ofEntries place (before ++ v :: after) = .error cause := by
  induction before generalizing place with
  | nil =>
    obtain ⟨fault, hv, hreport⟩ := (stops_iff place).1 hv
    rw [List.nil_append, ofEntries, hv]
    simp only [hreport]
    rfl
  | cons u before ih =>
    rw [List.forall_mem_cons] at hbefore
    rw [List.cons_append, ofEntries_cons hbefore.1, ih hbefore.2]
    rfl

/-- Either all entries are confined, or one of them is the first that is not. -/
lemma confined_or_first (vs : List Value) : (∀ v ∈ vs, isConfined v = true) ∨
    ∃ before v after cause, vs = before ++ v :: after ∧ (∀ u ∈ before, isConfined u = true) ∧
      Stops v cause := by
  cases hfirst : vs.find? fun v => !isConfined v with
  | none => exact .inl fun v hv => by simpa using List.find?_eq_none.1 hfirst v hv
  | some v =>
    obtain ⟨hv, before, after, rfl, hbefore⟩ := List.find?_eq_some_iff_append.1 hfirst
    obtain ⟨cause, hcause⟩ := isConfined_eq_false_iff.1 (by simpa using hv)
    exact .inr ⟨before, v, after, cause, rfl, by simpa using hbefore, hcause⟩

/-- The reading of entries has a value iff all of them are confined. -/
lemma ofEntries_eq_ok_iff {vs : List Value} :
    ofEntries place vs = .ok s ↔ (∀ v ∈ vs, isConfined v = true) ∧ s = loaded place vs := by
  constructor
  · intro h
    rcases confined_or_first vs with hall | ⟨before, v, after, cause, rfl, hbefore, hv⟩
    · rw [ofEntries_of_isConfined hall] at h
      exact ⟨hall, (Except.ok.inj h).symm⟩
    · rw [ofEntries_of_stops hbefore hv] at h
      cases h
  · rintro ⟨hall, rfl⟩
    exact ofEntries_of_isConfined hall

/-- The reading of entries ends in the fault of the first one that is not confined. -/
lemma ofEntries_eq_error_iff {vs : List Value} :
    ofEntries place vs = .error cause ↔ ∃ before v after, vs = before ++ v :: after ∧
      (∀ u ∈ before, isConfined u = true) ∧ Stops v cause := by
  constructor
  · intro h
    rcases confined_or_first vs with hall | ⟨before, v, after, cause', rfl, hbefore, hv⟩
    · rw [ofEntries_of_isConfined hall] at h
      cases h
    · rw [ofEntries_of_stops hbefore hv] at h
      obtain rfl := Except.error.inj h
      exact ⟨before, v, after, rfl, hbefore, hv⟩
  · rintro ⟨before, v, after, rfl, hbefore, hv⟩
    exact ofEntries_of_stops hbefore hv

/-- An entry that is confined adds its template to those of the entries after it. -/
lemma templates_cons (h : isConfined v = true) (vs : List Value) :
    (ofEntries place (v :: vs)).map (·.templates) =
      ((ofEntries (place + 1) vs).map (·.templates)).map ((template? v).toList ++ ·) := by
  rw [ofEntries_cons h]
  cases ofEntries (place + 1) vs <;> rfl

/-- Which templates are loaded does not depend on the place of the first entry. -/
lemma templates_ofEntries (place place' : Nat) (vs : List Value) :
    (ofEntries place vs).map (·.templates) = (ofEntries place' vs).map (·.templates) := by
  rcases confined_or_first vs with hall | ⟨before, v, after, cause, rfl, hbefore, hv⟩
  · rw [ofEntries_of_isConfined hall, ofEntries_of_isConfined hall]
    rfl
  · rw [ofEntries_of_stops hbefore hv, ofEntries_of_stops hbefore hv]

/-- Which templates are loaded does not depend on an entry that is none, if it is confined. -/
lemma templates_insert (hnone : template? v = none) (hv : isConfined v = true) :
    (ofEntries place (before ++ v :: after)).map (·.templates) =
      (ofEntries place (before ++ after)).map (·.templates) := by
  induction before generalizing place with
  | nil =>
    -- the entry is gone, and those after it move up by one place
    rw [List.nil_append, List.nil_append, templates_cons hv, hnone,
      templates_ofEntries (place + 1) place]
    cases ofEntries place after <;> rfl
  | cons u before ih =>
    rw [List.cons_append, List.cons_append]
    cases hu : isConfined u with
    | true => rw [templates_cons hu, templates_cons hu, ih]
    | false =>
      obtain ⟨cause, hu⟩ := isConfined_eq_false_iff.1 hu
      have hstop : ∀ vs, ofEntries place (u :: vs) = .error cause := fun vs =>
        ofEntries_of_stops (List.forall_mem_nil _) hu
      rw [hstop, hstop]

/-- The entries of a list are its items. -/
lemma ofValue_list (vs : List Value) : ofValue (.list vs) = ofEntries 0 vs := by
  cases vs <;> rfl

/-- **Confined faults are isolated, and no others.** If the faults of all entries of a list are
confined and can be reported, the entries that are templates are loaded in their order, and there is
one report on each other entry, in their order, too. Otherwise the reading ends in the first fault
that is not confined, or in that of a label that cannot be written, and this is an overflow inside
of its entry. A malformed entry with a confined fault has no influence on which of the other entries
are loaded.

**Proof sketch.** Either all entries are confined or there is a first one that is not
(`confined_or_first`), and the reading goes through the entries before it by `ofEntries_cons`. -/
theorem isolates_confined (vs : List Value) :
    (∀ s, ofValue (.list vs) = .ok s ↔ (∀ v ∈ vs, isConfined v = true) ∧
      s.templates = vs.filterMap template? ∧ s.errors = vs.zipIdx.filterMap report?) ∧
    (∀ cause, ofValue (.list vs) = .error cause ↔ ∃ before v after, vs = before ++ v :: after ∧
      (∀ u ∈ before, isConfined u = true) ∧ Stops v cause) ∧
    (∀ v ∈ vs, (isConfined v = false ↔ ∃ cause, Stops v cause) ∧
      (∀ cause, Stops v cause → v.Overflows cause) ∧
      (isConfined v = true → ∀ place, (report? (v, place)).isSome = true ↔ template? v = none)) ∧
    (∀ before v after, vs = before ++ v :: after → template? v = none → isConfined v = true →
      (ofValue (.list vs)).map (·.templates) =
        (ofValue (.list (before ++ after))).map (·.templates)) := by
  simp only [ofValue_list]
  refine ⟨fun s => ?_, fun cause => ofEntries_eq_error_iff,
    fun v _ => ⟨isConfined_eq_false_iff, fun cause h => h.overflows, isSome_report?_iff⟩, ?_⟩
  · rw [ofEntries_eq_ok_iff]
    cases s
    simp only [loaded, Snapshot.mk.injEq]
  · rintro before v after rfl hnone hv
    exact templates_insert hnone hv

/-- An entry that is a template. -/
def complete : Value :=
  .object [("id", .text "t1"), ("pricingFormula", .text "1")]

/-- An entry without a formula. -/
def incomplete : Value :=
  .object [("id", .text "broken")]

/-- An entry that asks for infinitely many pieces. -/
def endless : Value :=
  .object [("id", .text "t2"), ("pricingFormula", .text "1"), ("minQuantity", .float (1.0 / 0.0))]

/-- An entry without a formula is reported, and does not keep the other one from being loaded. -/
theorem isolates_confined_incomplete :
    (∃ s, ofValue (.list [incomplete, complete]) = .ok s ∧
      s.errors.map Error.message = ["Template broken: pricingFormula is required"] ∧
      s.templates.map (·.id) = ["t1"]) ∧
    (ofValue (.list [incomplete, complete])).map (·.templates) =
      (ofValue (.list [complete])).map (·.templates) := by
  have hall : ∀ v ∈ [incomplete, complete], isConfined v = true := by decide +kernel
  obtain ⟨hok, -, -, hinsert⟩ := isolates_confined [incomplete, complete]
  refine ⟨⟨loaded 0 [incomplete, complete], (hok _).2 ⟨hall, rfl, rfl⟩, rfl, rfl⟩, ?_⟩
  exact hinsert [] incomplete [complete] rfl rfl rfl

/-- An entry that asks for infinitely many pieces keeps the others from being loaded. -/
theorem not_isolates_endless : (∃ t, Template.ofValue complete = .ok t) ∧
    (∃ cause, Template.ofValue endless = .error cause) ∧
    ofValue (.list [complete, endless]) = .error .infinityAsInteger :=
  ⟨⟨_, rfl⟩, ⟨_, rfl⟩, rfl⟩

end Snapshot

end Tariff
