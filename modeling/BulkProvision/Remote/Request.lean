import BulkProvision.Document.Validator
import BulkProvision.Program
import BulkProvision.Remote.ConnectionString
import BulkProvision.Remote.Failure

/-!
# Requests to a cluster

What is asked of a remote cluster, one request for one result, and the command document each
request is sent as (`Request.command?`).  A request either gets the reply that goes with it or
fails.
-/

namespace BulkProvision

namespace Remote

/-- A collection in its database. -/
structure Namespace where
  database : String
  collection : String
  deriving DecidableEq

/-- The full name of a collection. -/
def Namespace.text (ns : Namespace) : String := ns.database ++ "." ++ ns.collection

/-- The database of administrative commands. -/
def adminDatabase : String := "admin"

/-- A request to a cluster. -/
inductive Request where
  /-- Opens a connection and waits for a sign of life. -/
  | reach (address : ConnectionString)
  | create (ns : Namespace) (validator : Document) (level : Enforcement)
  /-- A command as it is, sent to a database; answers the reply. -/
  | command (database : String) (document : Document)
  /-- Removes every document; answers how many there were. -/
  | deleteAll (ns : Namespace)
  /-- Inserts documents in order, all of them or failing. -/
  | insert (ns : Namespace) (documents : List Document)
  | createIndex (ns : Namespace) (field : String)
  | count (ns : Namespace)
  /-- The keys of every index. -/
  | listIndexes (ns : Namespace)
  /-- Runs a pipeline; answers all documents that come out. -/
  | aggregate (ns : Namespace) (pipeline : List Document)
  /-- Ends the connection; every later request fails. -/
  | shutdown

/-- What comes back for a request. -/
abbrev Request.Answer : Request → Type
  | reach _ => Except Failure Unit
  | create .. => Except Failure Unit
  | command .. => Except Failure Document
  | deleteAll _ => Except Failure Nat
  | insert .. => Except Failure Unit
  | createIndex .. => Except Failure Unit
  | count _ => Except Failure Nat
  | listIndexes _ => Except Failure (List Document)
  | aggregate .. => Except Failure (List Document)
  | shutdown => Unit

/-- A program of requests. -/
abbrev RequestProgram (ε α : Type) := Program Request Request.Answer ε α

/-- Answers requests from a state. -/
abbrev Cluster (σ : Type) := Handler Request Request.Answer σ

/-! ### Commands -/

/-- A command that runs a pipeline over a collection. -/
def aggregation (collection : String) (pipeline : List Document) : Document :=
  [("aggregate", collection), ("pipeline", .array (pipeline.map Document.Value.document)),
    ("cursor", .document [])]

/-- The pipeline that counts the documents of a collection. -/
def countPipeline : List Document :=
  [[("$match", .document [])],
    [("$group", .document [("_id", 1), ("n", .single "$sum" 1)])]]

/-- Asks for a sign of life. -/
def pingCommand : Document := [("ping", 1)]

/-- The document by which a request is sent, before the name of its database is added. -/
def Request.body? : Request → Option (String × Document)
  | reach _ => some (adminDatabase, pingCommand)
  | create ns validator level =>
    some (ns.database,
      [("create", ns.collection), ("validator", .document validator),
        ("validationLevel", level.name), ("validationAction", "error")])
  | command database document => some (database, document)
  | deleteAll ns =>
    some (ns.database,
      [("delete", ns.collection),
        ("deletes", .array [.document [("q", .document []), ("limit", 0)]]),
        ("ordered", .bool true)])
  | insert ns _ => some (ns.database, [("insert", ns.collection), ("ordered", .bool true)])
  | createIndex ns field =>
    some (ns.database,
      [("createIndexes", ns.collection),
        ("indexes", .array
          [.document [("key", .single field 1), ("name", field ++ "_1")]])])
  | count ns => some (ns.database, aggregation ns.collection countPipeline)
  | listIndexes ns => some (ns.database, [("listIndexes", ns.collection)])
  | aggregate ns pipeline => some (ns.database, aggregation ns.collection pipeline)
  | shutdown => none

/-- What travels behind the command of a request: the documents of an insert. -/
def Request.payload : Request → Document
  | insert _ documents => [("documents", .array (documents.map Document.Value.document))]
  | _ => []

/-- The document by which a request is sent; ending the connection sends none. -/
def Request.command? (r : Request) : Option Document :=
  r.body?.map fun (database, document) =>
    document ++ ("$db", Document.Value.text database) :: r.payload

end Remote

end BulkProvision
