import BulkProvision.Store.Backend
import BulkProvision.Text.Duration

/-!
# The store in memory

A store that is plain data.  It behaves like a sharded cluster in everything that provisioning
relies on: a strict validator refuses a whole batch, repeated creation says so, and a collection
that is partitioned stays partitioned by the same key.  Faults can be injected: an operation on a
collection then fails, as refused or as unreachable, without looking at anything else.

Equal stores are equal as values.  Partitioning, inserting and indexing make a collection that is
not there before they look at anything else (`MemoryStore.opened`).
-/

namespace BulkProvision

namespace Store

/-- A collection of a store in memory. -/
structure Collection where
  validator : Option (Schema × Enforcement)
  shardKey : Option (String × KeyStrategy)
  documents : List Record
  /-- The indexed fields, in order of creation. -/
  indexes : List String
  deriving DecidableEq

/-- A collection as the first write to it creates it. -/
def Collection.fresh : Collection := ⟨none, none, [], []⟩

/-- The schema that inserts into a collection are held to. -/
def Collection.guard? (c : Collection) : Option Schema :=
  match c.validator with
  | some (schema, .strict) => some schema
  | _ => none

/-- How an injected fault shows. -/
inductive Fault where
  | rejected
  | unreachable
  deriving DecidableEq

/-- The error by which an injected fault shows. -/
def Fault.error (operation collection : String) : Fault → Error
  | .rejected => .rejected operation collection "injected failure"
  | .unreachable =>
    .unreachable operation ("connection lost during " ++ operation ++ " on " ++ collection)

/-- The state of a store in memory. -/
structure MemoryStore where
  collections : NameMap Collection
  /-- The databases with partitioning enabled. -/
  partitioned : NameSet
  users : NameMap Credential
  /-- The injected faults, by operation and then by collection. -/
  faults : NameMap (NameMap Fault)
  /-- How often a connection was closed. -/
  closed : Nat
  deriving DecidableEq

namespace MemoryStore

/-- The store without collections, users and faults. -/
def empty : MemoryStore := ⟨.empty, .empty, .empty, .empty, 0⟩

/-! ### Faults -/

/-- From now on the operation fails on the collection. -/
def inject (s : MemoryStore) (operation collection : String) (fault : Fault) : MemoryStore :=
  { s with
    faults := s.faults.insert operation
      (((s.faults.get? operation).getD .empty).insert collection fault) }

/-- The fault injected for an operation on a collection. -/
def fault? (s : MemoryStore) (operation collection : String) : Option Fault :=
  (s.faults.get? operation).bind fun m => m.get? collection

/-- The error of a call for which a fault is injected.  Enabling partitioning, users and closing
know no faults. -/
def refusal? (s : MemoryStore) (call : Call) : Option Error :=
  match call with
  | .enablePartitioning _ => none
  | .ensureUser _ => none
  | .close => none
  | call => (s.fault? call.operation call.target).map (Fault.error call.operation call.target)

/-! ### Operations -/

/-- A collection, fresh if there is none of the name. -/
def collection (s : MemoryStore) (name : String) : Collection :=
  (s.collections.get? name).getD .fresh

/-- Gives a collection a new state. -/
def setCollection (s : MemoryStore) (name : String) (c : Collection) : MemoryStore :=
  { s with collections := s.collections.insert name c }

/-- The store once a collection is there: a fresh one is made where there is none. -/
def opened (s : MemoryStore) (name : String) : MemoryStore :=
  s.setCollection name (s.collection name)

/-- The refusal of an operation on a collection that does not exist. -/
def missing (call : Call) : Error := .rejected call.operation call.target "ns does not exist"

/-- The first record that a schema refuses: its position and why. -/
def firstViolation? (schema : Schema) (records : List Record) : Option (Nat × Schema.Violation) :=
  go 0 records
where
  /-- Checks the records from a position on. -/
  go (index : Nat) : List Record → Option (Nat × Schema.Violation)
    | [] => none
    | record :: rest =>
      match schema.check record with
      | .error violation => some (index, violation)
      | .ok () => go (index + 1) rest

/-- What the store answers to a call for which no fault is injected, and its state afterwards. -/
def answer (s : MemoryStore) : (call : Call) → call.Answer × MemoryStore
  | .createCollection name schema level =>
    match s.collections.get? name with
    | some _ => (.ok (.alreadySatisfied ("collection " ++ name ++ " already exists")), s)
    | none =>
      (.ok (.applied ("created collection " ++ name ++ " with validation schema")),
        s.setCollection name { Collection.fresh with validator := some (schema, level) })
  | .alterValidator name schema level =>
    match s.collections.get? name with
    | none => (.error (missing (.alterValidator name schema level)), s)
    | some c => (.ok (), s.setCollection name { c with validator := some (schema, level) })
  | .enablePartitioning database =>
    if s.partitioned.contains database then
      (.ok (.alreadySatisfied ("sharding already enabled for database " ++ database)), s)
    else
      (.ok (.applied ("enabled sharding for database " ++ database)),
        { s with partitioned := s.partitioned.insert database () })
  | .partitionCollection name field strategy =>
    let s := s.opened name
    let c := s.collection name
    match c.shardKey with
    | none =>
      (.ok (.applied ("sharded collection " ++ name ++ " by " ++ field)),
        s.setCollection name { c with shardKey := some (field, strategy) })
    | some (present, how) =>
      if present = field ∧ how = strategy then
        (.ok (.alreadySatisfied ("collection " ++ name ++ " already sharded by " ++ field)), s)
      else
        (.error (.rejected "partition_collection" name
          ("already sharded with a different key (" ++ present ++ ")")), s)
  | .deleteAll name =>
    match s.collections.get? name with
    | none => (.ok 0, s)
    | some c => (.ok c.documents.length, s.setCollection name { c with documents := [] })
  | .insertMany name records =>
    let s := s.opened name
    let c := s.collection name
    match c.guard?.bind (firstViolation? · records) with
    | some (index, violation) =>
      (.error (.rejected "insert_many" name
        ("Document failed validation (index " ++ toString index ++ "): " ++ violation.message)),
        s)
    | none =>
      (.ok records.length, s.setCollection name { c with documents := c.documents ++ records })
  | .createIndex name field =>
    let s := s.opened name
    let c := s.collection name
    (.ok (), s.setCollection name
      (if c.indexes.contains field then c else { c with indexes := c.indexes ++ [field] }))
  | .ensureUser credential =>
    match s.users.get? credential.user with
    | some _ => (.ok (.alreadySatisfied ("admin user " ++ credential.user ++ " already exists")), s)
    | none =>
      (.ok (.applied ("admin user " ++ credential.user ++ " created")),
        { s with users := s.users.insert credential.user credential })
  | .countDocuments name => (.ok (s.collection name).documents.length, s)
  | .listIndexFields name =>
    match s.collections.get? name with
    | none => (.error (missing (.listIndexFields name)), s)
    | some c => (.ok c.indexes, s)
  | .close => ((), { s with closed := s.closed + 1 })

/-- What the store answers to a call, and its state afterwards. -/
def handle : CallHandler MemoryStore := fun call s =>
  match s.refusal? call with
  | some e => (call.failure e, s)
  | none => s.answer call

/-! ### Views -/

/-- The documents of a collection. -/
def documents (s : MemoryStore) (name : String) : List Record := (s.collection name).documents

/-- The validator of a collection. -/
def validator? (s : MemoryStore) (name : String) : Option (Schema × Enforcement) :=
  (s.collections.get? name).bind (·.validator)

/-- The shard key of a collection. -/
def shardKey? (s : MemoryStore) (name : String) : Option (String × KeyStrategy) :=
  (s.collections.get? name).bind (·.shardKey)

/-- Whether a user exists. -/
def hasUser (s : MemoryStore) (user : String) : Bool := s.users.contains user

/-- Whether partitioning is enabled for a database. -/
def isPartitioned (s : MemoryStore) (database : String) : Bool := s.partitioned.contains database

/-! ### Connections -/

/-- The error of a connection attempt that timed out. -/
def timedOut (settings : StoreSettings) : Error :=
  .unreachable "connect" ("server selection timed out after " ++
    Text.duration settings.serverSelectionTimeoutMs)

/-- The backend of a store in memory; when it is out of reach every connection times out. -/
def backend (reachable : Bool) : Backend MemoryStore where
  connect settings s := (if reachable then .ok () else .error (timedOut settings), s)
  handle := handle

end MemoryStore

end Store

end BulkProvision
