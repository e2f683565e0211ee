import BulkProvision.Store.Backend

/-!
# Bootstrapping a cluster

Makes sure of the administrator and enables partitioning for the database.  On a cluster that was
bootstrapped before, nothing changes.
-/

namespace BulkProvision

open Store

namespace Bootstrap

/-- What the steps of a bootstrap came to, in order. -/
structure Report where
  steps : List Outcome
  deriving DecidableEq

/-- Whether at least one step changed the cluster. -/
def Report.changed (r : Report) : Bool := r.steps.any fun outcome => !outcome.isNoop

/-- One bootstrap over an open connection. -/
def run (credential : Credential) (database : String) :
    StoreProgram Empty (Except Error Report) := do
  match ← Program.ask (Call.ensureUser credential) with
  | .error e => pure (.error e)
  | .ok user =>
    match ← Program.ask (Call.enablePartitioning database) with
    | .error e => pure (.error e)
    | .ok partitioning => pure (.ok ⟨[user, partitioning]⟩)

/-- The bootstrap that settings describe. -/
def ofSettings (settings : Settings) : StoreProgram Empty (Except Error Report) :=
  run settings.bootstrap settings.store.database

end Bootstrap

end BulkProvision
