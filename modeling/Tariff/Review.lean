import Tariff.Catalog
import Tariff.Review.Table
import Tariff.Snapshot

/-!
# Reviews

A review of a snapshot lists the collisions among its templates, the templates that could not be
saved as they are, and the entries that could not be read.

## Main definitions

* `Tariff.Review` — what a review finds; `Review.ofSnapshot?` reviews a snapshot.
* `Tariff.Review.table` — the collisions as a table.
* `Tariff.Review.record` — a review as a document.
* `Tariff.Review.console` — a review as the command line shows it.
-/

set_option autoImplicit false

namespace Tariff

open Tariff.Number

/-- What a review of a snapshot finds. -/
structure Review where
  templates : List Template
  collisions : List Collision
  /-- the reports of the templates by their ids -/
  reports : List (String × Template.Report)
  /-- what could not be read -/
  skipped : List Snapshot.Error

namespace Review

/-- Reviews a snapshot, unless there is nothing in it but what could not be read. -/
def ofSnapshot? (limits : Formula.Limits) (s : Snapshot) : Option Review :=
  if s.templates.isEmpty && !s.errors.isEmpty then none
  else some {
    templates := s.templates
    collisions := Collision.all s.templates
    reports := Catalog.checkAll limits ⟨s.templates⟩
    skipped := s.errors }

/-- The templates that could not be saved as they are, by their ids. -/
def invalid (r : Review) : List (String × List Template.Problem) :=
  (r.reports.filter fun entry => !entry.2.isValid).map fun entry => (entry.1, entry.2.problems)

/-- The number of active templates. -/
def activeCount (r : Review) : Nat :=
  r.templates.countP (·.isActive)

/-- The number of different ids of templates that collide. -/
def collidingCount (r : Review) : Nat :=
  (r.collisions.flatMap fun c => c.templates.map (·.id)).eraseDups.length

/-- The columns of the table of collisions. -/
def columns : List String :=
  ["Scope Key", "Scope Type", "Scope Value", "Template ID", "Template Name", "Priority"]

/-- The row of a template in a collision. -/
def rowOf (k : Target) (t : Template) : List String :=
  [k.text, k.scope.name, k.value.getD "", t.id, t.name, integerText t.priority]

/-- The collisions as a table, with a row for each template in each of them. -/
def table (r : Review) : String :=
  Table.text (columns :: r.collisions.flatMap fun c => c.templates.map (rowOf c.target))

/-- Texts as a value. -/
def textList (lines : List String) : Value :=
  .list (lines.map .text)

/-- A review as a document, with the paths of the snapshot and of the table. -/
def record (snapshotPath tablePath : String) (r : Review) : Value :=
  .object [
    ("status", .text "success"),
    ("snapshot", .text snapshotPath),
    ("metrics", .object [
      ("templates", .int r.templates.length),
      ("active_templates", .int r.activeCount),
      ("collision_groups", .int r.collisions.length),
      ("templates_in_collisions", .int r.collidingCount),
      ("invalid_templates", .int r.invalid.length)]),
    ("invalid_templates", .object (r.invalid.map fun entry =>
      (entry.1, textList (entry.2.map Template.Problem.message)))),
    ("warnings", textList (r.skipped.map Snapshot.Error.message)),
    ("errors", .list []),
    ("output_file", .text tablePath)]

/-! ### Reviews on the command line -/

/-- What is said when there is nothing to review. -/
def nothingLoaded : String := "No templates could be loaded"

/-- A line below a head. -/
def bullet (indent : String) (text : String) : String :=
  indent ++ "- " ++ text

/-- The lines of a review that found nothing to review. -/
def failureLines (errors : List Snapshot.Error) : List String :=
  ["", "FAILED:"] ++ ((nothingLoaded :: errors.map Snapshot.Error.message).map (bullet "  "))

/-- The lines of a review whose table is in a file. -/
def successLines (r : Review) (tablePath : String) : List String :=
  ["", "Templates:        " ++ integerText r.templates.length ++ " (" ++
      integerText r.activeCount ++ " active)",
    "Collision groups: " ++ integerText r.collisions.length,
    "Invalid:          " ++ integerText r.invalid.length] ++
  (r.invalid.flatMap fun entry =>
    ["", "  " ++ entry.1 ++ ":"] ++
      entry.2.map fun p => bullet "    " p.message) ++
  (if r.skipped.isEmpty then []
   else ["", "Skipped snapshot entries:"] ++
     r.skipped.map fun e => bullet "  " e.message) ++
  ["", "Collisions written to " ++ tablePath]

/-- The lines that every review starts with. -/
def headLines (snapshotPath : String) : List String :=
  let rule := String.ofList (List.replicate 60 '=')
  [rule, "TEMPLATE COLLISION REPORT", rule, "Snapshot: " ++ snapshotPath]

/-- What the command line shows of a review, and the code with which it ends. -/
def console (snapshotPath tablePath : String) (errors : List Snapshot.Error)
    (review : Option Review) : List String × Nat :=
  match review with
  | none => (headLines snapshotPath ++ failureLines errors, 1)
  | some r => (headLines snapshotPath ++ r.successLines tablePath, 0)

end Review

end Tariff
