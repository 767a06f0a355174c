import Tariff.Proofs.Snapshot

/-!
# Files of snapshots

The bytes of a file pass three stages: they have to be a text, the text has to be a document, and
the document has to have entries. Only a text that is malformed is reported as the one error of an
empty snapshot. Bytes that are no text, a whole number with too many digits, a document that is
asked for items it does not have, and an entry that stops the reading leave no snapshot at all.
A document that counts as left out has no entries and no errors, and the entries of a document that
is a text are its characters.

## Main definitions

* `Tariff.Snapshot.IsDocument` — the bytes of a file are the text of a document.
* `Tariff.Snapshot.source` — where the entries of a document are looked for.
* `Tariff.Snapshot.Escapes` — the faults that leave no snapshot.

## Main results

* `Tariff.fromUTF8?_eq_some_iff` — bytes are read as the text that they encode.
* `Tariff.Snapshot.entries_eq_error_iff` — which documents have no entries to be asked for.
* `Tariff.Snapshot.ofFile_text` — the entries of a document that is a text.
* `Tariff.Snapshot.ends_of_ofFile` — how the reading of a file ends.
-/

set_option autoImplicit false

namespace Tariff

/-! ### Bytes of texts -/

/-- Bytes are read as the text that they encode. -/
lemma fromUTF8?_eq_some_iff {bytes : ByteArray} {s : String} :
    String.fromUTF8? bytes = some s ↔ bytes = s.toUTF8 := by
  rw [String.fromUTF8?]
  constructor
  · intro h
    split at h
    · obtain rfl := Option.some.inj h
      rfl
    · cases h
  · rintro rfl
    exact dif_pos s.isValidUTF8

/-- Bytes are not read iff they encode no text. -/
lemma fromUTF8?_eq_none_iff {bytes : ByteArray} :
    String.fromUTF8? bytes = none ↔ ∀ s : String, bytes ≠ s.toUTF8 := by
  rw [Option.eq_none_iff_forall_ne_some]
  exact forall_congr' fun s => not_congr fromUTF8?_eq_some_iff

namespace Snapshot

variable {bytes : ByteArray} {v : Value} {vs : List Value} {cause : Fault} {s : Snapshot}

/-! ### Entries of documents -/

/-- Where the entries of a document are looked for: in the document, or in a member of an object. -/
def source : Value → Value
  | .object members => (lookup? "templates" members).getD (.list [])
  | v => v

/-- The entries of a document are the items of what they are looked for in. -/
lemma entries_eq (v : Value) : entries v = (source v).itemsIfAny := by
  cases v <;> rfl

/-- The entries are looked for in a document that is no object itself. -/
lemma source_of_kind (h : v.kind ≠ .object) : source v = v := by
  cases v with
  | object => exact absurd rfl h
  | _ => rfl

/-- Only values without items that do not count as left out are asked for them in vain. -/
lemma itemsIfAny_eq_error_iff : v.itemsIfAny = .error cause ↔
    v.isVoid = false ∧ v.kind ∈ [.bool, .int, .float] ∧ cause = .noItems v.kind := by
  rw [Value.itemsIfAny]
  by_cases hvoid : v.isVoid = true
  · simp [hvoid]
  · rw [if_neg hvoid, eq_false_of_ne_true hvoid]
    cases v with
    | null => exact absurd rfl hvoid
    | bool | int | float => simp [Value.items, Value.kind, @eq_comm _ cause]
    | text | list | object => simp [Value.items, Value.kind]

/-- **Which documents have no entries to be asked for.** -/
lemma entries_eq_error_iff : entries v = .error cause ↔ (source v).isVoid = false ∧
    (source v).kind ∈ [.bool, .int, .float] ∧ cause = .noItems (source v).kind := by
  rw [entries_eq, itemsIfAny_eq_error_iff]

/-- Entries that are no templates add an error each. -/
lemma exists_loaded (place : Nat) (h : ∀ v ∈ vs, isConfined v = true ∧ template? v = none) :
    ∃ errors, loaded place vs = ⟨[], errors⟩ ∧ errors.length = vs.length := by
  refine ⟨(vs.zipIdx place).filterMap report?, ?_, ?_⟩
  · rw [loaded, List.filterMap_eq_nil_iff.2 fun v hv => (h v hv).2]
  · have hreport : ∀ entry ∈ vs.zipIdx place, (report? entry).isSome = true := by
      intro entry hentry
      obtain ⟨hconfined, hnone⟩ := h entry.1 (List.fst_mem_of_mem_zipIdx hentry)
      exact (isSome_report?_iff hconfined entry.2).2 hnone
    rw [List.filterMap_length_eq_length.2 hreport, List.length_zipIdx]

/-! ### Documents of files -/

/-- The bytes of a file are the text of a document. -/
def IsDocument (bytes : ByteArray) (v : Value) : Prop :=
  ∃ s : String, bytes = s.toUTF8 ∧ Document.read s = .ok v

/-- The snapshots that the reading of the bytes of a file ends in. -/
inductive Loads (bytes : ByteArray) : Snapshot → Prop where
  /-- a text that is no document -/
  | malformed {text : String} (htext : bytes = text.toUTF8)
    (h : Document.read text = .error .malformed) : Loads bytes ⟨[], [.malformed]⟩
  /-- a document whose entries are all confined -/
  | document {v : Value} {vs : List Value} (hv : IsDocument bytes v) (hentries : entries v = .ok vs)
    (hall : ∀ u ∈ vs, isConfined u = true) : Loads bytes (loaded 0 vs)

/-- The faults in which the reading of the bytes of a file ends without a snapshot. -/
inductive Escapes (bytes : ByteArray) : Fault → Prop where
  /-- the bytes are no text -/
  | encoding (h : ∀ s : String, bytes ≠ s.toUTF8) : Escapes bytes .notText
  /-- a whole number has too many digits -/
  | digits {s : String} {n : Nat} (hs : bytes = s.toUTF8)
    (h : Document.read s = .error (.integerTooLong n)) : Escapes bytes (.integerTooLong n)
  /-- the entries are looked for in a value that has no items -/
  | items {v : Value} (hv : IsDocument bytes v) (hvoid : (source v).isVoid = false)
    (hkind : (source v).kind ∈ [.bool, .int, .float]) : Escapes bytes (.noItems (source v).kind)
  /-- an entry stops the reading -/
  | entry {v u : Value} {before after : List Value} {cause : Fault} (hv : IsDocument bytes v)
    (hentries : entries v = .ok (before ++ u :: after))
    (hbefore : ∀ w ∈ before, isConfined w = true) (hu : Stops u cause) : Escapes bytes cause

/-- The bytes of a text are read as it. -/
lemma ofFile_of_text (path : String) {text : String} (h : bytes = text.toUTF8) :
    ofFile path (some bytes) = ofText text := by
  simp only [ofFile, fromUTF8?_eq_some_iff.2 h]

/-- The bytes of a document are read as it. -/
lemma ofFile_of_isDocument (path : String) (h : IsDocument bytes v) :
    ofFile path (some bytes) = ofValue v := by
  obtain ⟨text, htext, hread⟩ := h
  rw [ofFile_of_text path htext, ofText, hread]

/-- The bytes of a file are no text, a malformed text, a text with too long a number, or the text of
a document. -/
lemma cases_of_bytes (bytes : ByteArray) : (∀ s : String, bytes ≠ s.toUTF8) ∨
    (∃ s : String, bytes = s.toUTF8 ∧ Document.read s = .error .malformed) ∨
    (∃ (s : String) (n : Nat), bytes = s.toUTF8 ∧
      Document.read s = .error (.integerTooLong n)) ∨
    ∃ v, IsDocument bytes v := by
  cases htext : String.fromUTF8? bytes with
  | none => exact .inl (fromUTF8?_eq_none_iff.1 htext)
  | some s =>
    have hs := fromUTF8?_eq_some_iff.1 htext
    refine .inr ?_
    cases hread : Document.read s with
    | ok v => exact .inr (.inr ⟨v, s, hs, hread⟩)
    | error cause =>
      cases cause with
      | malformed => exact .inl ⟨s, hs, hread⟩
      | integerTooLong n => exact .inr (.inl ⟨s, n, hs, hread⟩)

/-- The reading ends in the snapshots that are described. -/
lemma Loads.ofFile_eq (h : Loads bytes s) (path : String) : ofFile path (some bytes) = .ok s := by
  cases h with
  | malformed htext h => rw [ofFile_of_text path htext, ofText, h]
  | document hv hentries hall =>
    rw [ofFile_of_isDocument path hv]
    exact bind_eq_ok.2 ⟨_, hentries, ofEntries_of_isConfined hall⟩

/-- The reading ends in the faults that are described. -/
lemma Escapes.ofFile_eq (h : Escapes bytes cause) (path : String) :
    ofFile path (some bytes) = .error cause := by
  cases h with
  | encoding h => simp only [ofFile, fromUTF8?_eq_none_iff.2 h]
  | digits htext h => rw [ofFile_of_text path htext, ofText, h]
  | items hv hvoid hkind =>
    rw [ofFile_of_isDocument path hv]
    exact bind_eq_error.2 (.inl (entries_eq_error_iff.2 ⟨hvoid, hkind, rfl⟩))
  | entry hv hentries hbefore hu =>
    rw [ofFile_of_isDocument path hv]
    exact bind_eq_error.2 (.inr ⟨_, hentries, ofEntries_of_stops hbefore hu⟩)

/-- A snapshot or a fault is described for all bytes. -/
lemma loads_or_escapes (bytes : ByteArray) :
    (∃ s, Loads bytes s) ∨ ∃ cause, Escapes bytes cause := by
  rcases cases_of_bytes bytes with
    hnone | ⟨text, htext, hread⟩ | ⟨text, n, htext, hread⟩ | ⟨v, hv⟩
  · exact .inr ⟨_, .encoding hnone⟩
  · exact .inl ⟨_, .malformed htext hread⟩
  · exact .inr ⟨_, .digits htext hread⟩
  · cases hentries : entries v with
    | error cause =>
      obtain ⟨hvoid, hkind, -⟩ := entries_eq_error_iff.1 hentries
      exact .inr ⟨_, .items hv hvoid hkind⟩
    | ok vs =>
      rcases confined_or_first vs with hall | ⟨before, u, after, cause, rfl, hbefore, hu⟩
      · exact .inl ⟨_, .document hv hentries hall⟩
      · exact .inr ⟨_, .entry hv hentries hbefore hu⟩

/-- The entries of a document that is a text are its characters, and none of them is a template. -/
lemma ofFile_text (path : String) {text : String} (hv : IsDocument bytes (.text text)) :
    ∃ errors, ofFile path (some bytes) = .ok ⟨[], errors⟩ ∧ errors.length = text.length := by
  have hentries : entries (.text text) =
      .ok (text.toList.map fun c => .text (String.singleton c)) := by
    rw [entries_eq, source_of_kind (by simp [Value.kind]), Value.itemsIfAny]
    split
    · next hvoid =>
      obtain rfl : text = "" := eq_of_beq hvoid
      rfl
    · rfl
  have hnone : ∀ u ∈ text.toList.map fun c => Value.text (String.singleton c),
      isConfined u = true ∧ template? u = none := by
    intro u hu
    obtain ⟨c, -, rfl⟩ := List.mem_map.1 hu
    exact ⟨rfl, rfl⟩
  obtain ⟨errors, hloaded, hlength⟩ := exists_loaded 0 hnone
  refine ⟨errors, ?_, by rw [hlength, List.length_map, String.length_toList]⟩
  rw [← hloaded]
  exact (Loads.document hv hentries fun u hu => (hnone u hu).1).ofFile_eq path

/-- **How the reading of a file ends.** The snapshots and the faults in which it ends are those that
`Loads` and `Escapes` describe. So there is a snapshot, unless the bytes are no text, a whole number
has too many digits, the entries are looked for in a value that has no items, or an entry stops the
reading. Of the documents that are neither a list nor null nor an object, those that
count as left out have an empty snapshot without errors, a text has an error for each of its
characters, and each other one leaves no snapshot.

**Proof sketch.** For all bytes a snapshot or a fault is described (`loads_or_escapes`), and what is
described is what the reading ends in. -/
theorem ends_of_ofFile (path : String) (bytes : ByteArray) :
    (∀ s, ofFile path (some bytes) = .ok s ↔ Loads bytes s) ∧
    (∀ cause, ofFile path (some bytes) = .error cause ↔ Escapes bytes cause) ∧
    ∀ v, IsDocument bytes v → v.kind ∉ [.list, .null, .object] →
      (v.isVoid = true → ofFile path (some bytes) = .ok ⟨[], []⟩) ∧
      (∀ text, v = .text text → ∃ errors, ofFile path (some bytes) = .ok ⟨[], errors⟩ ∧
        errors.length = text.length) ∧
      (v.isVoid = false → v.kind ≠ .text →
        ofFile path (some bytes) = .error (.noItems v.kind)) := by
  refine ⟨fun s => ⟨fun h => ?_, fun h => h.ofFile_eq path⟩,
    fun cause => ⟨fun h => ?_, fun h => h.ofFile_eq path⟩, fun v hv hkind => ?_⟩
  · rcases loads_or_escapes bytes with ⟨s', hs'⟩ | ⟨cause, hcause⟩
    · obtain rfl := Except.ok.inj (h.symm.trans (hs'.ofFile_eq path))
      exact hs'
    · cases h.symm.trans (hcause.ofFile_eq path)
  · rcases loads_or_escapes bytes with ⟨s, hs⟩ | ⟨cause', hcause'⟩
    · cases h.symm.trans (hs.ofFile_eq path)
    · obtain rfl := Except.error.inj (h.symm.trans (hcause'.ofFile_eq path))
      exact hcause'
  · have hsource : source v = v := source_of_kind fun hobject => hkind (by simp [hobject])
    refine ⟨fun hvoid => ?_, ?_, fun hvoid htext => ?_⟩
    · have hentries : entries v = .ok [] := by
        rw [entries_eq, hsource, Value.itemsIfAny, if_pos hvoid]
      exact (Loads.document hv hentries (List.forall_mem_nil _)).ofFile_eq path
    · rintro text rfl
      exact ofFile_text path hv
    · have hscalar : v.kind ∈ [.bool, .int, .float] := by
        cases hv : v.kind <;> simp_all
      have hescapes := @Escapes.items bytes v hv (by rwa [hsource]) (by rwa [hsource])
      rw [hsource] at hescapes
      exact hescapes.ofFile_eq path

/-- A list that is not closed is reported as the one error, and a document that is a text of two
characters has two errors. -/
theorem ends_of_ofFile_unclosed :
    ofFile "t.json" (some "[1".toUTF8) = .ok ⟨[], [.malformed]⟩ ∧
    ∃ errors, ofFile "t.json" (some "\"ab\"".toUTF8) = .ok ⟨[], errors⟩ ∧ errors.length = 2 := by
  have hmalformed : Document.read "[1" = .error .malformed := rfl
  have htext : IsDocument "\"ab\"".toUTF8 (.text "ab") := ⟨_, rfl, rfl⟩
  refine ⟨((ends_of_ofFile "t.json" _).1 _).2 (.malformed rfl hmalformed), ?_⟩
  exact ((ends_of_ofFile "t.json" _).2.2 _ htext (by decide)).2.1 "ab" rfl

/-- A byte that is no text and a document that is a number leave no snapshot, and a document that is
zero has no error. -/
theorem ofFile_without_error :
    ofFile "t.json" (some ⟨#[0xff]⟩) = .error .notText ∧
    (IsDocument "5".toUTF8 (.int 5) ∧
      ofFile "t.json" (some "5".toUTF8) = .error (.noItems .int)) ∧
    IsDocument "0".toUTF8 (.int 0) ∧ ofFile "t.json" (some "0".toUTF8) = .ok ⟨[], []⟩ := by
  have hbyte : String.fromUTF8? ⟨#[0xff]⟩ = none := by decide
  have hfive : IsDocument "5".toUTF8 (.int 5) := ⟨_, rfl, rfl⟩
  have hzero : IsDocument "0".toUTF8 (.int 0) := ⟨_, rfl, rfl⟩
  refine ⟨by simp only [ofFile, hbyte], ⟨hfive, ?_⟩, hzero, ?_⟩
  · exact ofFile_of_isDocument _ hfive
  · exact ofFile_of_isDocument _ hzero

end Snapshot

end Tariff
