import BulkProvision.Source
import BulkProvision.Store.Backend

/-!
# Provisioning

Provisioning walks a catalog in order and brings every collection to its state: validator
attached, partitioned, contents replaced, indexes built.  Every step tolerates a store that is
already partly or fully provisioned, so a run can simply be repeated.

The source of a dataset is read and checked before anything is deleted: a source that does not
load leaves the previous contents in place.  A failure is recorded in the report of its dataset
and the next dataset still runs; only an error that makes the store unusable ends the run.

`Provision.run` is the program of one run, over any store.  It announces the report of each dataset
when the dataset is finished.
-/

namespace BulkProvision

open Store

/-- What a run works on. -/
structure Plan where
  catalog : Catalog
  registry : Registry
  rules : List Coercion.Rule
  database : String

namespace Plan

/-- The plan that settings describe. -/
def ofSettings (env : Environment) (settings : Settings) : Plan :=
  let catalog := Catalog.ofSettings env settings
  ⟨catalog, Registry.ofCatalog catalog, settings.coercion, settings.store.database⟩

end Plan

namespace Provision

/-- What one dataset went through. -/
structure DatasetReport where
  name : String
  deleted : Nat
  inserted : Nat
  /-- The fields left as NaN because their text held no number. -/
  unparseable : Nat
  indexes : List String
  notes : List String
  error : Option Error
  deriving DecidableEq

/-- The report of a dataset nothing has happened to yet. -/
def DatasetReport.start (name : String) : DatasetReport := ⟨name, 0, 0, 0, [], [], none⟩

/-- What a run did, by dataset. -/
structure Report where
  datasets : List DatasetReport
  deriving DecidableEq

namespace Report

/-- The datasets that failed. -/
def failed (r : Report) : List DatasetReport := r.datasets.filter (·.error.isSome)

/-- Whether no dataset failed. -/
def isSuccess (r : Report) : Bool := r.failed.isEmpty

end Report

/-- The level at which collections are held to their schema. -/
def level : Enforcement := .strict

/-! ### One dataset

A stage works on the report of a dataset and may stop the dataset with an error; what it wrote to
the report stays. -/

/-- A part of the work on one dataset. -/
abbrev Stage (α : Type) := ExceptT Error (StateT DatasetReport (StoreProgram DatasetReport)) α

namespace Stage

/-- A call whose error stops the dataset. -/
def lift {α : Type} (p : StoreProgram DatasetReport (Except Error α)) : Stage α :=
  ExceptT.mk (StateT.lift p)

/-- Adds a note to the report. -/
def note (text : String) : Stage Unit := modify fun r => { r with notes := r.notes ++ [text] }

end Stage

/-- Creates the collection, or gives an existing one the validator. -/
def ensureCollection (name : String) (schema : Schema) : Stage Unit := do
  let outcome ← Stage.lift (Program.ask (Call.createCollection name schema level))
  Stage.note outcome.note
  if outcome.isNoop then
    Stage.lift (Program.ask (Call.alterValidator name schema level))
    Stage.note ("updated validator on collection " ++ name)

/-- Partitions the collection by the hash of its shard key. -/
def ensurePartitioning (dataset : Dataset) : Stage Unit := do
  let outcome ← Stage.lift
    (Program.ask (Call.partitionCollection dataset.name dataset.shardKey .hashed))
  Stage.note outcome.note

/-- Replaces the documents by loaded records. -/
def replaceDocuments (name : String) (loaded : Source.Loaded) : Stage Unit := do
  modify fun r => { r with unparseable := loaded.coercion.unparseable }
  let deleted ← Stage.lift (Program.ask (Call.deleteAll name))
  modify fun r => { r with deleted := deleted }
  if loaded.records.isEmpty then Stage.note "source is empty, insert skipped"
  else
    let inserted ← Stage.lift (Program.ask (Call.insertMany name loaded.records))
    modify fun r => { r with inserted := inserted }

/-- Builds the indexes in order. -/
def buildIndexes (name : String) : List String → Stage Unit
  | [] => pure ()
  | field :: rest => do
    Stage.lift (Program.ask (Call.createIndex name field))
    modify fun r => { r with indexes := r.indexes ++ [field] }
    buildIndexes name rest

/-- Everything that is done for one dataset. -/
def provisionStages (plan : Plan) (files : FileTree) (dataset : Dataset) : Stage Unit := do
  let schema ← liftExcept (plan.registry.find dataset.name)
  ensureCollection dataset.name schema
  ensurePartitioning dataset
  let loaded ← liftExcept (Source.loadDataset files plan.rules dataset schema)
  replaceDocuments dataset.name loaded
  buildIndexes dataset.name dataset.indexFields
where
  /-- An error of something else than a call. -/
  liftExcept {α : Type} (x : Except Error α) : Stage α := ExceptT.mk (pure x)

/-- Works on one dataset: how it ended, and its report so far. -/
def provisionDataset (plan : Plan) (files : FileTree) (dataset : Dataset) :
    StoreProgram DatasetReport (Except Error Unit × DatasetReport) :=
  ((provisionStages plan files dataset).run).run (.start dataset.name)

/-! ### The run -/

/-- Works on the datasets in order; a fatal error ends the walk. -/
def provisionDatasets (plan : Plan) (files : FileTree) :
    List Dataset → StoreProgram DatasetReport (Except Error (List DatasetReport))
  | [] => pure (.ok [])
  | dataset :: rest => do
    let (ended, report) ← provisionDataset plan files dataset
    match ended with
    | .error e =>
      if e.isFatal then pure (.error e)
      else finish { report with error := some e } (provisionDatasets plan files rest)
    | .ok () => finish report (provisionDatasets plan files rest)
where
  /-- Announces a finished dataset and goes on. -/
  finish (report : DatasetReport)
      (others : StoreProgram DatasetReport (Except Error (List DatasetReport))) :
      StoreProgram DatasetReport (Except Error (List DatasetReport)) := do
    Program.announce report
    match ← others with
    | .error e => pure (.error e)
    | .ok reports => pure (.ok (report :: reports))

/-- One run over an open connection.  That the store refuses to enable partitioning for the
database does not stop the run. -/
def run (plan : Plan) (files : FileTree) : StoreProgram DatasetReport (Except Error Report) := do
  match ← Program.ask (Call.enablePartitioning plan.database) with
  | .error e => if e.isFatal then pure (.error e) else walk
  | .ok _ => walk
where
  /-- The walk over the catalog, as a report. -/
  walk : StoreProgram DatasetReport (Except Error Report) := do
    match ← provisionDatasets plan files plan.catalog with
    | .error e => pure (.error e)
    | .ok reports => pure (.ok ⟨reports⟩)

end Provision

end BulkProvision
