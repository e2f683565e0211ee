import BulkProvision.Analytics.Report
import BulkProvision.Document.Text
import BulkProvision.Remote.Store

/-!
# Making reports

Runs reports over a connection to a cluster and announces the lines they print: a heading, and the
rows that come out of the pipeline.  The first report that fails ends the others.
-/

namespace BulkProvision

namespace Analytics

open Remote

/-- The line above the rows of a report. -/
def Report.heading (report : Report) (rows : Nat) : String :=
  "== " ++ report.name ++ " (" ++ report.collection ++ "): " ++ toString rows ++ " rows"

/-- Announces lines in order. -/
def print : List String → RequestProgram String Unit
  | [] => pure ()
  | line :: rest => do
    Program.announce line
    print rest

/-- Makes reports in order, over an open connection. -/
def runAll (database : String) : List Report → RequestProgram String (Except Error Unit)
  | [] => pure (.ok ())
  | report :: rest => do
    match ← Remote.aggregate ⟨database, report.collection⟩ report.pipeline with
    | .error e => pure (.error e)
    | .ok rows =>
      print (report.heading rows.length :: rows.map Document.render)
      runAll database rest

/-- Makes reports over a connection of their own, which is closed whatever became of them. -/
def run (files : FileTree) (settings : StoreSettings) (reports : List Report) :
    RequestProgram String (Except Error Unit) := do
  match ← connect files settings with
  | .error e => pure (.error e)
  | .ok () =>
    let ended ← runAll settings.database reports
    Program.ask Request.shutdown
    pure ended

end Analytics

end BulkProvision
