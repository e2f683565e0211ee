import BulkProvision.Error
import BulkProvision.Schema
import BulkProvision.Text.Quoted

/-!
# What a document store is asked to do

The administrative and bulk operations of a store, as data: `Store.Call` is a request and
`Store.Call.Answer` the type of what the store answers to it.  Stores translate their own signs of
"already done" into `Outcome.alreadySatisfied`; an error in an answer is a real failure.
-/

namespace BulkProvision

/-- How the documents of a collection are spread over the shards. -/
inductive KeyStrategy where
  | hashed
  | ranged
  deriving DecidableEq

namespace KeyStrategy

/-- The name of a strategy. -/
def name : KeyStrategy → String
  | hashed => "hashed"
  | ranged => "ranged"

/-- The strategy of that name. -/
def ofName? (s : String) : Option KeyStrategy := [hashed, ranged].find? (·.name = s)

/-- The strategy that holds unless another is named. -/
def standard : KeyStrategy := hashed

end KeyStrategy

/-- An administrator of the cluster. -/
structure Credential where
  user : String
  password : String
  role : String
  authDatabase : String
  deriving DecidableEq

/-- A credential in words.  The password never shows. -/
def Credential.text (c : Credential) : String :=
  "AdminCredential \x7b user: " ++ Text.quote c.user ++
    ", password: " ++ Text.quote "<redacted>" ++ ", role: " ++ Text.quote c.role ++
    ", auth_database: " ++ Text.quote c.authDatabase ++ " \x7d"

/-- How a repeatable step ended. -/
inductive Outcome where
  | applied (note : String)
  /-- There was nothing to do. -/
  | alreadySatisfied (note : String)
  deriving DecidableEq

namespace Outcome

/-- The remark that goes with an outcome. -/
def note : Outcome → String
  | applied n => n
  | alreadySatisfied n => n

/-- Whether the step found its goal met. -/
def isNoop : Outcome → Bool
  | applied _ => false
  | alreadySatisfied _ => true

end Outcome

namespace Store

/-- A request to a store. -/
inductive Call where
  | createCollection (name : String) (schema : Schema) (level : Enforcement)
  | alterValidator (name : String) (schema : Schema) (level : Enforcement)
  | enablePartitioning (database : String)
  | partitionCollection (name field : String) (strategy : KeyStrategy)
  /-- Removes every document; answers how many there were. -/
  | deleteAll (name : String)
  /-- One bulk insert; answers how many documents went in. -/
  | insertMany (name : String) (records : List Record)
  /-- An ascending index on one field; an equal index that exists is fine. -/
  | createIndex (name field : String)
  | ensureUser (credential : Credential)
  | countDocuments (name : String)
  /-- The fields of the single-field indexes, without that of the identifier. -/
  | listIndexFields (name : String)
  | close
  deriving DecidableEq

/-- What a store answers to a request. -/
abbrev Call.Answer : Call → Type
  | createCollection .. => Except Error Outcome
  | alterValidator .. => Except Error Unit
  | enablePartitioning _ => Except Error Outcome
  | partitionCollection .. => Except Error Outcome
  | deleteAll _ => Except Error Nat
  | insertMany .. => Except Error Nat
  | createIndex .. => Except Error Unit
  | ensureUser _ => Except Error Outcome
  | countDocuments _ => Except Error Nat
  | listIndexFields _ => Except Error (List String)
  | close => Unit

/-- The name an operation goes by in errors. -/
def Call.operation : Call → String
  | createCollection .. => "create_collection"
  | alterValidator .. => "alter_collection_validator"
  | enablePartitioning _ => "enable_partitioning"
  | partitionCollection .. => "partition_collection"
  | deleteAll _ => "delete_all"
  | insertMany .. => "insert_many"
  | createIndex .. => "create_index"
  | ensureUser _ => "ensure_user"
  | countDocuments _ => "count_documents"
  | listIndexFields _ => "list_indexes"
  | close => "close"

/-- What an operation works on, as errors name it. -/
def Call.target : Call → String
  | createCollection name .. => name
  | alterValidator name .. => name
  | enablePartitioning database => database
  | partitionCollection name .. => name
  | deleteAll name => name
  | insertMany name _ => name
  | createIndex name _ => name
  | ensureUser credential => credential.user
  | countDocuments name => name
  | listIndexFields name => name
  | close => ""

/-- The answer by which a store fails a request; closing does not fail. -/
def Call.failure (error : Error) : (call : Call) → call.Answer
  | createCollection .. => .error error
  | alterValidator .. => .error error
  | enablePartitioning _ => .error error
  | partitionCollection .. => .error error
  | deleteAll _ => .error error
  | insertMany .. => .error error
  | createIndex .. => .error error
  | ensureUser _ => .error error
  | countDocuments _ => .error error
  | listIndexFields _ => .error error
  | close => ()

end Store

end BulkProvision
