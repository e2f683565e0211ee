import BulkProvision.Source
import BulkProvision.Store.Backend

/-!
# Verification

Compares every collection with its source: the number of documents and the indexes.  Nothing is
changed.  What the store refuses for one collection is a problem of that dataset; only a fatal
error ends the check early.
-/

namespace BulkProvision

open Store

namespace Verify

/-- How one collection compares with its source. -/
structure Check where
  name : String
  /-- Number of records in the source, when the source can be read. -/
  sourceRecords : Option Nat
  documents : Nat
  indexes : List String
  problems : List String
  deriving DecidableEq

/-- Whether nothing is wrong with the collection. -/
def Check.isConsistent (c : Check) : Bool := c.problems.isEmpty

/-- How the collections compare with their sources. -/
structure Report where
  datasets : List Check
  deriving DecidableEq

/-- Whether nothing is wrong with any collection. -/
def Report.isConsistent (r : Report) : Bool := r.datasets.all Check.isConsistent

/-- What is wrong with the number of documents, given what reading the source came to. -/
def countProblems (documents : Nat) : Except Error Nat → List String
  | .ok n =>
    if n = documents then []
    else [toString documents ++ " documents but source has " ++ toString n ++ " records"]
  | .error e => [e.message]

/-- The declared indexes that are missing. -/
def indexProblems (present declared : List String) : List String :=
  (declared.filter fun field => !present.contains field).map fun field =>
    "index on '" ++ field ++ "' is missing"

/-- The check of a dataset from what the store answered. -/
def checkOf (files : FileTree) (dataset : Dataset) (counted : Except Error Nat)
    (listed : Except Error (List String)) : Check :=
  let documents := counted.toOption.getD 0
  let indexes := listed.toOption.getD []
  let source := Source.countRecords files dataset
  ⟨dataset.name, source.toOption, documents, indexes,
    refusal counted ++ refusal listed ++ countProblems documents source ++
      indexProblems indexes dataset.indexFields⟩
where
  /-- A refusal by the store, as a problem. -/
  refusal {α : Type} : Except Error α → List String
    | .ok _ => []
    | .error e => [e.message]

/-- The error of an answer, where it is fatal. -/
def fatal? {α : Type} : Except Error α → Option Error
  | .ok _ => none
  | .error e => if e.isFatal then some e else none

/-- Checks one dataset. -/
def checkDataset (files : FileTree) (dataset : Dataset) :
    StoreProgram Empty (Except Error Check) := do
  let counted ← Program.ask (Call.countDocuments dataset.name)
  match fatal? counted with
  | some e => pure (.error e)
  | none =>
    let listed ← Program.ask (Call.listIndexFields dataset.name)
    match fatal? listed with
    | some e => pure (.error e)
    | none => pure (.ok (checkOf files dataset counted listed))

/-- Checks the datasets in order. -/
def checkDatasets (files : FileTree) :
    List Dataset → StoreProgram Empty (Except Error (List Check))
  | [] => pure (.ok [])
  | dataset :: rest => do
    match ← checkDataset files dataset with
    | .error e => pure (.error e)
    | .ok check =>
      match ← checkDatasets files rest with
      | .error e => pure (.error e)
      | .ok checks => pure (.ok (check :: checks))

/-- One verification over an open connection. -/
def run (catalog : Catalog) (files : FileTree) : StoreProgram Empty (Except Error Report) := do
  match ← checkDatasets files catalog with
  | .error e => pure (.error e)
  | .ok checks => pure (.ok ⟨checks⟩)

end Verify

end BulkProvision
