import Tariff.Template.Entry
import Tariff.Value.Document

/-!
# Snapshots

A snapshot is a document with the templates of a shop: a list of entries, or an object that has
them under a name. An entry that is malformed is left out and reported, so that the others load.

## Main definitions

* `Tariff.Snapshot` — the templates of a document, and what could not be read.
* `Tariff.Snapshot.ofValue` — the snapshot of a value.
* `Tariff.Snapshot.ofFile` — the snapshot of the bytes of a file.
-/

set_option autoImplicit false

namespace Tariff

/-- What could not be read of a snapshot. -/
inductive Snapshot.Error where
  /-- there is no file at a path -/
  | noFile (path : String)
  /-- the text of the file is no document -/
  | malformed
  /-- the entry of a label is no template -/
  | entry (label : String) (cause : Fault)

/-- The wording of what could not be read. -/
def Snapshot.Error.message : Snapshot.Error → String
  | noFile path => "Snapshot file not found: " ++ path
  | malformed => "Snapshot is not valid JSON"
  | entry label cause => "Template " ++ label ++ ": " ++ cause.message

/-- The templates of a document, and what could not be read. -/
structure Snapshot where
  templates : List Template
  errors : List Snapshot.Error

namespace Snapshot

/-- The label of an entry: its id as it is written, or its place, counted from one. -/
def entryLabel (v : Value) (place : Nat) : Except Fault String :=
  match v with
  | .object members => Value.shownOr (lookup? "id" members) ("#" ++ Number.integerText (place + 1))
  | _ => .ok ("#" ++ Number.integerText (place + 1))

/-- The report on the fault of an entry. There is none on a fault that is not confined to its entry,
nor on one of an entry whose label cannot be written. -/
def report (v : Value) (place : Nat) (cause : Fault) : Except Fault Error :=
  if cause.isConfined then (entryLabel v place).map fun label => .entry label cause
  else .error cause

/-- The snapshot of some entries, of which the first has a given place. A fault on which there is no
report stops the reading. -/
def ofEntries (place : Nat) : List Value → Except Fault Snapshot
  | [] => .ok ⟨[], []⟩
  | v :: rest =>
    match Template.ofValue v with
    | .ok t => do
      let others ← ofEntries (place + 1) rest
      .ok ⟨t :: others.templates, others.errors⟩
    | .error cause => do
      let error ← report v place cause
      let others ← ofEntries (place + 1) rest
      .ok ⟨others.templates, error :: others.errors⟩

/-- The entries of a document. -/
def entries (v : Value) : Except Fault (List Value) :=
  match v with
  | .object members => ((lookup? "templates" members).getD (.list [])).itemsIfAny
  | _ => v.itemsIfAny

/-- The snapshot of a document. -/
def ofValue (v : Value) : Except Fault Snapshot := do
  ofEntries 0 (← entries v)

/-- The snapshot of a text. -/
def ofText (s : String) : Except Fault Snapshot :=
  match Document.read s with
  | .ok v => ofValue v
  | .error .malformed => .ok ⟨[], [.malformed]⟩
  | .error (.integerTooLong digits) => .error (.integerTooLong digits)

/-- The snapshot of the bytes of the file at a path, if there is one. -/
def ofFile (path : String) (content : Option ByteArray) : Except Fault Snapshot :=
  match content with
  | none => .ok ⟨[], [.noFile path]⟩
  | some bytes =>
    match String.fromUTF8? bytes with
    | some s => ofText s
    | none => .error .notText

end Snapshot

end Tariff
