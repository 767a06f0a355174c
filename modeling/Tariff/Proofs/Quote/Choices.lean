import Mathlib.Data.List.Forall2
import Mathlib.Data.List.Nodup
import Tariff.Proofs.Outcome
import Tariff.Quote.FieldValue

/-!
# What choices from the options of a field add up to

A field with options takes a text as one choice and a list as one choice for each of its entries.
Every entry has to name an option by what it shows in writing, and what the options of all entries
add is summed up in their order. Nothing is done about an entry that comes again, whatever the type
of the field: its option is one of the chosen options once more.

## Main definitions

* `Tariff.FieldOption.total` — what options add up to.
* `Tariff.Field.Names` — an entry names an option of a field.
* `Tariff.Field.Chooses` — entries choose options of a field, one each.
* `Tariff.Field.TurnsAway` — the failures with which a field turns an entry away.

## Main results

* `Tariff.Field.addDeltas_eq_ok_iff`, `Tariff.Field.addDeltas_eq_error_iff` — sums over choices.
* `Tariff.Field.Chooses.nodup_iff` — an option is chosen twice iff an entry is given twice.
* `Tariff.Field.interpret_choices` — which choices are accepted, and what they add up to.
-/

set_option autoImplicit false

namespace Tariff

/-- What options add up to, in their order and on top of zero. -/
def FieldOption.total (os : List FieldOption) : Float :=
  os.foldl (fun sum o => sum + o.delta) 0.0

/-- One more option adds its delta. -/
lemma FieldOption.total_append_singleton (os : List FieldOption) (o : FieldOption) :
    total (os ++ [o]) = total os + o.delta := by
  rw [total, List.foldl_append]
  rfl

namespace Field

/-- An entry names an option of a field by what it shows in writing. -/
def Names (f : Field) (v : Value) (o : FieldOption) : Prop :=
  ∃ s, v.shown = .ok s ∧ f.option? s = some o

/-- Entries choose options of a field: each one names the option in its place. -/
def Chooses (f : Field) (vs : List Value) (os : List FieldOption) : Prop :=
  List.Forall₂ f.Names vs os

/-- The failures with which a field turns an entry away. -/
inductive TurnsAway (f : Field) (v : Value) : Failure → Prop where
  /-- there is no such option -/
  | unknown {s : String} (hs : v.shown = .ok s) (hnone : f.option? s = none) :
    TurnsAway f v (.unknownOption f.key s)
  /-- the entry cannot be written -/
  | unwritten {cause : Fault} (h : v.shown = .error cause) : TurnsAway f v (.fault cause)

variable {f : Field} {u v : Value} {vs : List Value} {o o' : FieldOption} {os : List FieldOption}
  {texts : List String} {sum delta : Float} {failure : Failure}

/-! ### Options by their values -/

/-- What a text names is an option of the field, and has it as its value. -/
lemma mem_of_option? {value : String} (h : f.option? value = some o) :
    o ∈ f.options ∧ o.value = value :=
  ⟨List.mem_of_find?_eq_some h, by simpa using List.find?_some h⟩

/-- An entry names one option at most. -/
lemma Names.unique (h : f.Names v o) (h' : f.Names v o') : o = o' := by
  obtain ⟨s, hs, ho⟩ := h
  obtain ⟨s', hs', ho'⟩ := h'
  obtain rfl := Except.ok.inj (hs.symm.trans hs')
  exact Option.some.inj (ho.symm.trans ho')

/-- An entry that names an option shows the value of it. -/
lemma Names.shown_eq (h : f.Names v o) : v.shown = .ok o.value := by
  obtain ⟨s, hs, ho⟩ := h
  rw [hs, (mem_of_option? ho).2]

/-- An entry names an option, or it is turned away. -/
lemma names_or_turnsAway (f : Field) (v : Value) :
    (∃ o, f.Names v o) ∨ ∃ failure, f.TurnsAway v failure := by
  cases hs : v.shown with
  | error cause => exact .inr ⟨_, .unwritten hs⟩
  | ok s =>
    cases ho : f.option? s with
    | none => exact .inr ⟨_, .unknown hs ho⟩
    | some o => exact .inl ⟨o, s, hs, ho⟩

/-- An entry that names an option is not turned away. -/
lemma Names.not_turnsAway (h : f.Names v o) : ¬f.TurnsAway v failure := by
  obtain ⟨s, hs, ho⟩ := h
  rintro (⟨hs', hnone⟩ | hs')
  · obtain rfl := Except.ok.inj (hs.symm.trans hs')
    cases ho.symm.trans hnone
  · cases hs.symm.trans hs'

/-- An entry is turned away for one reason. -/
lemma TurnsAway.unique {failure' : Failure} (h : f.TurnsAway v failure)
    (h' : f.TurnsAway v failure') : failure = failure' := by
  cases h with
  | unknown hs hnone =>
    cases h' with
    | unknown hs' hnone' => rw [Except.ok.inj (hs.symm.trans hs')]
    | unwritten hs' => cases hs.symm.trans hs'
  | unwritten hs =>
    cases h' with
    | unknown hs' hnone' => cases hs.symm.trans hs'
    | unwritten hs' => rw [Except.error.inj (hs.symm.trans hs')]

namespace Chooses

/-- What is chosen are options of the field. -/
lemma subset (h : f.Chooses vs os) : os ⊆ f.options := by
  intro o ho
  obtain ⟨i, hi, rfl⟩ := List.mem_iff_getElem.1 ho
  obtain ⟨_, -, hname⟩ := h.get (h.length_eq ▸ hi) hi
  exact (mem_of_option? hname).1

/-- The chosen options have the values that the entries show. -/
lemma mapM_shown (h : f.Chooses vs os) :
    vs.mapM Value.shown = .ok (os.map FieldOption.value) := by
  induction h with
  | nil => rfl
  | cons hv _ ih =>
    rw [List.mapM_cons, hv.shown_eq, ih]
    rfl

/-- A chosen option is the one that its value names. -/
lemma option?_value (h : f.Chooses vs os) (ho : o ∈ os) : f.option? o.value = some o := by
  induction h with
  | nil => cases ho
  | cons hv _ ih =>
    rcases List.mem_cons.1 ho with rfl | ho
    · obtain ⟨s, -, hname⟩ := hv
      rw [(mem_of_option? hname).2, hname]
    · exact ih ho

/-- **An option is chosen twice iff an entry is given twice.** -/
lemma nodup_iff (h : f.Chooses vs os) (htexts : vs.mapM Value.shown = .ok texts) :
    os.Nodup ↔ texts.Nodup := by
  obtain rfl := Except.ok.inj (htexts.symm.trans h.mapM_shown)
  refine ⟨fun hnodup => hnodup.map_on fun o ho o' ho' hvalue => ?_, List.Nodup.of_map _⟩
  have hsame := h.option?_value ho
  rw [hvalue, h.option?_value ho'] at hsame
  exact (Option.some.inj hsame).symm

/-- Entries choose the same options every time. -/
lemma unique {others : List FieldOption} (h : f.Chooses vs os) (hothers : f.Chooses vs others) :
    os = others :=
  List.right_unique_forall₂' (fun _ _ _ ho ho' => ho.unique ho') h hothers

/-- One more entry chooses one more option. -/
lemma append_singleton (h : f.Chooses vs os) (hu : f.Names u o) :
    f.Chooses (vs ++ [u]) (os ++ [o]) :=
  List.rel_append h (.cons hu .nil)

/-- Each entry names one of the chosen options. -/
lemma exists_of_mem (h : f.Chooses vs os) (hu : u ∈ vs) : ∃ o ∈ os, f.Names u o := by
  induction h with
  | nil => cases hu
  | @cons v o vs os hv _ ih =>
    rcases List.mem_cons.1 hu with rfl | hu
    · exact ⟨o, List.mem_cons_self, hv⟩
    · obtain ⟨o', ho', ho⟩ := ih hu
      exact ⟨o', List.mem_cons_of_mem o ho', ho⟩

end Chooses

/-! ### Sums over choices -/

/-- An entry that names an option adds its delta. -/
lemma addDeltas_of_names (h : f.Names v o) :
    f.addDeltas sum (v :: vs) = f.addDeltas (sum + o.delta) vs := by
  obtain ⟨s, hs, ho⟩ := h
  simp only [addDeltas, hs, ho, Failure.ofFault, Except.mapError, bind, Except.bind]

/-- An entry that is turned away ends the sum. -/
lemma addDeltas_of_turnsAway (h : f.TurnsAway v failure) :
    f.addDeltas sum (v :: vs) = .error failure := by
  cases h with
  | unwritten h =>
    rw [addDeltas, h]
    rfl
  | unknown hs hnone =>
    simp only [addDeltas, hs, hnone, Failure.ofFault, Except.mapError, bind, Except.bind]


/-- Choices have a sum iff each of them names an option, and it is that of the options. -/
lemma addDeltas_eq_ok_iff : f.addDeltas sum vs = .ok delta ↔
    ∃ os, f.Chooses vs os ∧ delta = os.foldl (fun sum o => sum + o.delta) sum := by
  induction vs generalizing sum with
  | nil => simp [addDeltas, Chooses, eq_comm]
  | cons v vs ih =>
    simp only [Chooses, List.forall₂_cons_left_iff]
    rcases f.names_or_turnsAway v with ⟨o, ho⟩ | ⟨failure, hfailure⟩
    · rw [addDeltas_of_names ho, ih]
      constructor
      · rintro ⟨os, hos, rfl⟩
        exact ⟨o :: os, ⟨o, os, ho, hos, rfl⟩, rfl⟩
      · rintro ⟨_, ⟨o', os, ho', hos, rfl⟩, rfl⟩
        obtain rfl := ho.unique ho'
        exact ⟨os, hos, rfl⟩
    · rw [addDeltas_of_turnsAway hfailure]
      refine iff_of_false nofun ?_
      rintro ⟨_, ⟨o, _, ho, -⟩, -⟩
      exact ho.not_turnsAway hfailure

/-- Choices are turned away iff one of them is, and for the first such one. -/
lemma addDeltas_eq_error_iff : f.addDeltas sum vs = .error failure ↔
    ∃ before u after, vs = before ++ u :: after ∧ (∀ w ∈ before, ∃ o, f.Names w o) ∧
      f.TurnsAway u failure := by
  induction vs generalizing sum with
  | nil => simp [addDeltas]
  | cons v vs ih =>
    rw [exists_first_cons]
    rcases f.names_or_turnsAway v with ⟨o, ho⟩ | ⟨failure', hfailure⟩
    · rw [addDeltas_of_names ho, ih, or_iff_right ho.not_turnsAway, and_iff_right ⟨o, ho⟩]
    · have hnone : ¬∃ o, f.Names v o := fun ⟨o, ho⟩ => ho.not_turnsAway hfailure
      rw [addDeltas_of_turnsAway hfailure, Except.error.injEq, or_iff_left fun h => hnone h.1]
      exact ⟨fun h => h ▸ hfailure, fun h => hfailure.unique h⟩

/-! ### Values of fields with options -/

/-- What gives a field with options something to choose by is read as choices. -/
lemma interpret_of_choices (hoptions : f.type.hasOptions = true) (hv : choices v = .ok vs) :
    f.interpret v = f.addDeltas 0.0 vs >>= fun delta =>
      Failure.ofFault (vs.mapM Value.shown) >>= fun texts => .ok (.options texts delta) := by
  cases v with
  | null | bool | int | float => cases hv
  | text | list | object =>
    obtain rfl := Except.ok.inj hv
    simp only [interpret, if_pos hoptions]
    rfl

/-- Choices are accepted iff they choose options, and their number is what these add up to. -/
lemma interpret_eq_ok_iff (hoptions : f.type.hasOptions = true) (hv : choices v = .ok vs)
    {value : FieldValue} : f.interpret v = .ok value ↔ ∃ texts os,
      vs.mapM Value.shown = .ok texts ∧ f.Chooses vs os ∧
        value = .options texts (FieldOption.total os) := by
  rw [interpret_of_choices hoptions hv]
  simp only [bind_eq_ok, addDeltas_eq_ok_iff, Failure.ofFault, mapError_eq_ok]
  constructor
  · rintro ⟨_, ⟨os, hos, rfl⟩, texts, htexts, h⟩
    exact ⟨texts, os, htexts, hos, (Except.ok.inj h).symm⟩
  · rintro ⟨texts, os, htexts, hos, rfl⟩
    exact ⟨_, ⟨os, hos, rfl⟩, texts, htexts, rfl⟩

/-- Choices are turned away iff one of them is, and for the first such one. -/
lemma interpret_eq_error_iff (hoptions : f.type.hasOptions = true) (hv : choices v = .ok vs) :
    f.interpret v = .error failure ↔ ∃ before u after, vs = before ++ u :: after ∧
      (∀ w ∈ before, ∃ o, f.Names w o) ∧ f.TurnsAway u failure := by
  rw [interpret_of_choices hoptions hv, bind_eq_error, or_iff_left, addDeltas_eq_error_iff]
  -- entries that choose options have been written
  rintro ⟨_, hsum, h⟩
  obtain ⟨os, hos, -⟩ := addDeltas_eq_ok_iff.1 hsum
  rw [hos.mapM_shown] at h
  cases h

/-- **Which choices are accepted, and what they add up to.** A field with options of any type
accepts a text, a list or an object iff every entry names one of its options. The number is what the
options of all entries add up to, in their order. Otherwise the first entry that names none is
reported, or cannot be written. The options of the entries are options of the field, and one is
among them twice iff an entry is given twice. So a text chooses one option, and a list in which no
entry comes again adds each option at most once; but an entry that comes again adds its option
again.

**Proof sketch.** The sum goes through the entries (`addDeltas_eq_ok_iff`,
`addDeltas_eq_error_iff`). An option is found by its value, so that two places of the same option
are those of the same entry (`Chooses.nodup_iff`). -/
theorem interpret_choices (hoptions : f.type.hasOptions = true) (hv : choices v = .ok vs) :
    (∀ value, f.interpret v = .ok value ↔ ∃ texts os, vs.mapM Value.shown = .ok texts ∧
      f.Chooses vs os ∧ value = .options texts (FieldOption.total os)) ∧
    (∀ failure, f.interpret v = .error failure ↔ ∃ before u after, vs = before ++ u :: after ∧
      (∀ w ∈ before, ∃ o, f.Names w o) ∧ f.TurnsAway u failure) ∧
    (∀ texts os, vs.mapM Value.shown = .ok texts → f.Chooses vs os →
      os ⊆ f.options ∧ (os.Nodup ↔ texts.Nodup) ∧
      ∀ u ∈ vs, ∃ o ∈ os, f.Names u o ∧ f.interpret (.list (vs ++ [u])) =
        .ok (.options (texts ++ [o.value]) (FieldOption.total os + o.delta))) := by
  refine ⟨fun value => interpret_eq_ok_iff hoptions hv, fun failure =>
    interpret_eq_error_iff hoptions hv,
    fun texts os htexts hos => ⟨hos.subset, hos.nodup_iff htexts, ?_⟩⟩
  intro u hu
  obtain ⟨o, ho, hname⟩ := hos.exists_of_mem hu
  have hmore := hos.append_singleton hname
  refine ⟨o, ho, hname, (interpret_eq_ok_iff hoptions rfl).2 ⟨_, _, hmore.mapM_shown, hmore, ?_⟩⟩
  obtain rfl := Except.ok.inj (htexts.symm.trans hos.mapM_shown)
  rw [FieldOption.total_append_singleton, List.map_append]
  rfl

/-- A field that offers two papers, of a given type. -/
def paper (type : FieldType) : Field :=
  ⟨"paper", type, "", false, true, [⟨"matte", "", some 10.0⟩, ⟨"glossy", "", some 20.0⟩], 0⟩

/-- Each of its papers is named by its value. -/
lemma names_paper (type : FieldType) :
    (paper type).Names (.text "matte") ⟨"matte", "", some 10.0⟩ ∧
      (paper type).Names (.text "glossy") ⟨"glossy", "", some 20.0⟩ :=
  ⟨⟨_, rfl, rfl⟩, ⟨_, rfl, rfl⟩⟩

/-- Both papers together are chosen, whatever the type of the field. -/
lemma chooses_paper (type : FieldType) :
    (paper type).Chooses [.text "matte", .text "glossy"] (paper type).options :=
  .cons (names_paper type).1 (.cons (names_paper type).2 .nil)

/-- Ticking both papers adds each once. -/
theorem interpret_choices_paper :
    (paper .checkbox).interpret (.list [.text "matte", .text "glossy"]) =
      .ok (.options ["matte", "glossy"] 30.0) ∧
    (paper .checkbox).options.Nodup ∧
    (paper .checkbox).interpret (.list [.text "matte", .text "plain"]) =
      .error (.unknownOption "paper" "plain") := by
  have htotal : FieldOption.total (paper .checkbox).options = 30.0 := by decide +kernel
  have hboth := @interpret_choices (paper .checkbox) (.list [.text "matte", .text "glossy"]) _
    rfl rfl
  have hplain := @interpret_choices (paper .checkbox) (.list [.text "matte", .text "plain"]) _
    rfl rfl
  refine ⟨(hboth.1 _).2 ⟨_, _, rfl, chooses_paper .checkbox, by rw [htotal]; rfl⟩, ?_, ?_⟩
  · exact (hboth.2.2 _ _ rfl (chooses_paper .checkbox)).2.1.2 (by decide)
  · refine (hplain.2.1 _).2 ⟨[.text "matte"], .text "plain", [], rfl, ?_, .unknown rfl rfl⟩
    rw [List.forall_mem_singleton]
    exact ⟨_, (names_paper .checkbox).1⟩

/-- A box that is ticked twice counts twice, and of a field with one choice two options are taken
together. -/
theorem interpret_paper_again :
    (paper .checkbox).interpret (.list [.text "matte"]) = .ok (.options ["matte"] 10.0) ∧
    (paper .checkbox).interpret (.list [.text "matte", .text "matte"]) =
      .ok (.options ["matte", "matte"] 20.0) ∧
    (10.0 : Float) ≠ 20.0 ∧
    (paper .select).interpret (.list [.text "matte", .text "glossy"]) =
      .ok (.options ["matte", "glossy"] 30.0) := by
  have hread : ∀ {type : FieldType} {vs : List Value} (os : List FieldOption) {sum : Float},
      type.hasOptions = true → (paper type).Chooses vs os → sum = FieldOption.total os →
      (paper type).interpret (.list vs) = .ok (.options (os.map FieldOption.value) sum) := by
    rintro type vs os _ htype hos rfl
    exact (interpret_eq_ok_iff htype rfl).2 ⟨_, _, hos.mapM_shown, hos, rfl⟩
  have hmatte : ∀ type, (paper type).Names (.text "matte") ⟨"matte", "", some 10.0⟩ := fun type =>
    (names_paper type).1
  refine ⟨hread [_] rfl (.cons (hmatte _) .nil) (by decide +kernel), ?_, by decide +kernel, ?_⟩
  · exact hread [_, _] rfl (.cons (hmatte _) (.cons (hmatte _) .nil)) (by decide +kernel)
  · exact hread _ rfl (chooses_paper .select) (by decide +kernel)

end Field

end Tariff
