import BulkProvision.Path.Files
import BulkProvision.Remote.Request
import BulkProvision.Store.Backend

/-!
# The store on a cluster

A store whose collections live on a remote cluster.  `Remote.perform` is the program of requests
that a call to the store comes to, and decides what the replies mean; `Remote.backend` runs it over
any cluster.
-/

namespace BulkProvision

namespace Remote

open Store

variable {ε : Type}

/-- A request whose failure is an error of the step. -/
def orFail {α : Type} (operation target : String) :
    Except Failure α → Except Error α
  | .ok value => .ok value
  | .error failure => .error (failure.error operation target)

/-- What a repeatable step comes to: the note of its success, or the meaning of its failure. -/
def settle {α : Type} (operation target note : String) (already : List Int) :
    Except Failure α → Except Error Outcome
  | .ok _ => .ok (.applied note)
  | .error failure => classify operation target failure.signs already

/-! ### The commands of a step -/

/-- Gives a collection its validator. -/
def modifyCommand (name : String) (schema : Schema) (level : Enforcement) : Document :=
  [("collMod", name), ("validator", .document (Document.validator schema)),
    ("validationLevel", level.name), ("validationAction", "error")]

/-- Enables partitioning for a database. -/
def enableCommand (database : String) : Document := [("enableSharding", database)]

/-- Partitions a collection. -/
def partitionCommand (ns : Namespace) (field : String) (strategy : KeyStrategy) : Document :=
  [("shardCollection", ns.text), ("key", .document (Document.shardKey field strategy))]

/-- Asks about a user. -/
def userInfoCommand (user : String) : Document := [("usersInfo", user)]

/-- Creates a user. -/
def createUserCommand (credential : Credential) : Document :=
  [("createUser", credential.user), ("pwd", credential.password),
    ("roles", .array
      [.document [("role", credential.role), ("db", credential.authDatabase)]])]

/-! ### What replies say -/

/-- Whether a reply says that the collection was partitioned just now.  A cluster answers a
repetition with the same key without saying so. -/
def partitionedNow (reply : Document) : Bool :=
  match reply.get? "collectionsharded" with
  | some (.text _) => true
  | _ => false

/-- Whether a reply lists a user. -/
def listsUser (reply : Document) : Bool :=
  match reply.get? "users" with
  | some (.array users) => !users.isEmpty
  | _ => false

/-- The field of an index on a single field. -/
def singleField? (key : Document) : Option String :=
  match key with
  | [(field, _)] => some field
  | _ => none

/-- The field by which every document is identified. -/
def identifierField : String := "_id"

/-- The fields of the indexes on a single field, without that of the identifier. -/
def indexFields (keys : List Document) : List String :=
  (keys.filterMap singleField?).filter (· ≠ identifierField)

/-! ### Steps -/

/-- Makes sure of a user: asks first, and creates it if it is not listed. -/
def ensureUser (credential : Credential) : RequestProgram ε (Except Error Outcome) := do
  let database := credential.authDatabase
  let user := credential.user
  match ← Program.ask (Request.command database (userInfoCommand user)) with
  | .error failure => pure (.error (failure.error "ensure_user" user))
  | .ok reply =>
    if listsUser reply then
      pure (.ok (.alreadySatisfied ("admin user " ++ user ++ " already exists")))
    else do
      let created ← Program.ask (Request.command database (createUserCommand credential))
      pure (settle "ensure_user" user ("admin user " ++ user ++ " created") [userExists] created)

/-- Partitions a collection. -/
def partitionCollection (ns : Namespace) (field : String) (strategy : KeyStrategy) :
    RequestProgram ε (Except Error Outcome) := do
  let name := ns.collection
  match ← Program.ask (Request.command adminDatabase (partitionCommand ns field strategy)) with
  | .error failure =>
    pure (classify "partition_collection" name failure.signs [alreadyInitialized])
  | .ok reply =>
    if partitionedNow reply then
      pure (.ok (.applied ("sharded collection " ++ name ++ " by " ++ field)))
    else
      pure (.ok (.alreadySatisfied ("collection " ++ name ++ " already sharded by " ++ field)))

/-- Inserts documents and says how many they are; to insert none fails without a request. -/
def insertDocuments (ns : Namespace) (documents : List Document) :
    RequestProgram ε (Except Error Nat) :=
  if documents.isEmpty then
    pure (.error ((Failure.argument "No documents provided to insert_many").error
      "insert_many" ns.collection))
  else do
    let inserted ← Program.ask (Request.insert ns documents)
    pure ((orFail "insert_many" ns.collection inserted).map fun _ => documents.length)

/-- The program of requests that a call comes to, for the collections of a database. -/
def perform (database : String) : (call : Call) → RequestProgram ε call.Answer
  | .createCollection name schema level => do
    let created ← Program.ask
      (Request.create ⟨database, name⟩ (Document.validator schema) level)
    pure (settle "create_collection" name
      ("created collection " ++ name ++ " with validation schema") [namespaceExists] created)
  | .alterValidator name schema level => do
    let altered ← Program.ask (Request.command database (modifyCommand name schema level))
    pure ((orFail "alter_collection_validator" name altered).map fun _ => ())
  | .enablePartitioning target => do
    let enabled ← Program.ask (Request.command adminDatabase (enableCommand target))
    pure (settle "enable_partitioning" target ("enabled sharding for database " ++ target)
      [alreadyInitialized] enabled)
  | .partitionCollection name field strategy =>
    partitionCollection ⟨database, name⟩ field strategy
  | .deleteAll name => do
    let deleted ← Program.ask (Request.deleteAll ⟨database, name⟩)
    pure (orFail "delete_all" name deleted)
  | .insertMany name records =>
    insertDocuments ⟨database, name⟩ (records.map Document.ofRecord)
  | .createIndex name field => do
    let created ← Program.ask (Request.createIndex ⟨database, name⟩ field)
    pure (orFail "create_index" name created)
  | .ensureUser credential => ensureUser credential
  | .countDocuments name => do
    let counted ← Program.ask (Request.count ⟨database, name⟩)
    pure (orFail "count_documents" name counted)
  | .listIndexFields name => do
    let listed ← Program.ask (Request.listIndexes ⟨database, name⟩)
    pure ((orFail "list_indexes" name listed).map indexFields)
  | .close => Program.ask Request.shutdown

/-- Runs a pipeline over a collection. -/
def aggregate (ns : Namespace) (pipeline : List Document) :
    RequestProgram ε (Except Error (List Document)) := do
  let rows ← Program.ask (Request.aggregate ns pipeline)
  pure (orFail "aggregate" ns.collection rows)

/-! ### Connecting -/

/-- How the file of a private key names its contents. -/
def keyMark : List Char := "PRIVATE KEY-----".toList

/-- Why a file that encryption relies on cannot be used, where that shows before a connection is
opened: it is not there, or there is no key in it where one is needed. -/
def fileFault? (files : FileTree) (needsKey : Bool) (path : String) : Option Failure :=
  match files.find? path with
  | some (.text content) =>
    if needsKey && !Text.contains keyMark content.toList then some (keyless path) else none
  | some .undecodable => if needsKey then some (keyless path) else none
  | _ => some (.connection "no such file")
where
  /-- The failure of a file without a key. -/
  keyless (path : String) : Failure := .encryption ("No PEM-encoded keys in " ++ path)

/-- Why encryption cannot be set up, from the files that an address names. -/
def encryptionFault? (files : FileTree) (address : ConnectionString) : Option Failure :=
  (address.trustFile?.bind (fileFault? files false)).or
    (address.keyFile?.bind (fileFault? files true))

/-- Opens a connection: the address must be well formed, the files it names must serve, and the
cluster must answer. -/
def connect (files : FileTree) (settings : StoreSettings) : RequestProgram ε (Except Error Unit) :=
  match ConnectionString.ofText? settings.uri with
  | none => pure (.error (.invalidConfig "store.uri: not a connection string"))
  | some address =>
    match encryptionFault? files address with
    | some failure => pure (.error (.invalidConfig failure.text))
    | none => do
      match ← Program.ask (Request.reach address) with
      | .error failure => pure (.error (.unreachable "connect" failure.text))
      | .ok () => pure (.ok ())

/-- The backend on a cluster, for the collections of a database. -/
def backend {σ : Type} (cluster : Cluster σ) (files : FileTree) (database : String) :
    Backend σ where
  connect settings s :=
    let run := (connect files settings : RequestProgram Empty (Except Error Unit)).run cluster s
    (run.value, run.state)
  handle call s :=
    let run := (perform database call : RequestProgram Empty call.Answer).run cluster s
    (run.value, run.state)

/-! ### Clusters out of reach -/

/-- How requests to a cluster out of reach fail: no server is found to send them to.  A balancer is
not looked for, so the connection itself fails. -/
def noServer (balanced : Bool) : Failure :=
  if balanced then .connection "connection refused" else .selection "no server is in reach"

/-- The cluster that is out of reach. -/
def outOfReach : Cluster Unit := fun request _ =>
  match request with
  | .reach address => (.error (noServer address.isBalanced), ())
  | .create .. => (.error (noServer false), ())
  | .command .. => (.error (noServer false), ())
  | .deleteAll _ => (.error (noServer false), ())
  | .insert .. => (.error (noServer false), ())
  | .createIndex .. => (.error (noServer false), ())
  | .count _ => (.error (noServer false), ())
  | .listIndexes _ => (.error (noServer false), ())
  | .aggregate .. => (.error (noServer false), ())
  | .shutdown => ((), ())

end Remote

end BulkProvision
