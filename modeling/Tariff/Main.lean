import Tariff.CommandLine.Trial
import Tariff.Review
import Tariff.Settings
import Tariff.Value.Indented

/-!
# The command line

Two commands. `trial` takes a formula and values for its names, checks the formula and shows its
value. `review` reads the snapshot of a shop, shows what a review of it finds, and writes the
collisions as a table and the review as a document to the folder for reports.

## Main definitions

* `Tariff.Main.trial`, `Tariff.Main.review` — the two commands.
* `main` — the program.
-/

set_option autoImplicit false

namespace Tariff.Main

/-- What the names of settings start with in the environment. -/
def environmentStart : String := "TARIFF_"

/-- The settings that the environment has, with the files of the shop below the current folder. -/
def settings : IO (Except Fault Settings) := do
  let given ← Settings.names.filterMapM fun name => do
    return (← IO.getEnv (environmentStart ++ name)).map (name, ·)
  return Settings.ofEnvironment "." fun name => lookup? name given

/-- Shows some lines. -/
def showLines (lines : List String) : IO Unit :=
  lines.forM IO.println

/-- Shows what ends the program early. -/
def fail (message : String) : IO UInt32 := do
  IO.eprintln message
  return 1

/-- Shows what the program is for, to one who called it with other arguments. -/
def usage : IO UInt32 := do
  IO.eprintln "usage: tariff trial FORMULA [NAME=VALUE ...]\n       tariff review"
  return 2

/-- The bytes of the file at a path, if there is one. -/
def content? (path : String) : IO (Option ByteArray) := do
  match ← (IO.FS.readBinFile path).toBaseIO with
  | .ok bytes => return some bytes
  | .error (.noFileOrDirectory _ _ _) => return none
  | .error e => throw e

/-- The trial of a formula. -/
def trial (args : List String) : IO UInt32 := do
  match ← settings with
  | .error cause => fail cause.message
  | .ok found =>
    let outcome := CommandLine.trial found.limits found.callLimit args
    if outcome.lines.isEmpty then usage
    else
      showLines outcome.lines
      match outcome.ending with
      | .error failure => fail failure.message
      | .ok code => return code.toUInt32

/-- The review of a snapshot. -/
def review : IO UInt32 := do
  match ← settings with
  | .error cause => fail cause.message
  | .ok found =>
    match Snapshot.ofFile found.snapshotPath (← content? found.snapshotPath) with
    | .error cause =>
      showLines (Review.headLines found.snapshotPath)
      fail cause.message
    | .ok snapshot =>
      let tablePath := Path.below found.reportsPath "collisions.csv"
      let outcome := Review.ofSnapshot? found.limits snapshot
      if let some r := outcome then
        IO.FS.createDirAll found.reportsPath
        IO.FS.writeFile tablePath r.table
        IO.FS.writeFile (Path.below found.reportsPath "collision_report.json")
          (Document.indented 0 (r.record found.snapshotPath tablePath))
      let (lines, code) := Review.console found.snapshotPath tablePath snapshot.errors outcome
      showLines lines
      return code.toUInt32

end Tariff.Main

/-- The program. -/
def main (args : List String) : IO UInt32 :=
  match args with
  | "trial" :: rest => Tariff.Main.trial rest
  | "review" :: _ => Tariff.Main.review
  | _ => Tariff.Main.usage
