import BulkProvision.Config.Value
import BulkProvision.Settings.Basic
import BulkProvision.Width

/-!
# Settings from a configuration

Reads settings out of a configuration value.  A structure is a table with its fields by name, or a
list with its fields in order; unknown keys are ignored and missing fields have their defaults.  No
value is converted: an integer is not a text, and a number with a point is no integer.
-/

namespace BulkProvision

namespace Config

namespace Value

/-- A text. -/
def asText? : Value → Option String
  | text s => some s
  | _ => none

/-- A truth value. -/
def asBool? : Value → Option Bool
  | bool b => some b
  | _ => none

/-- A natural number of 64 bits. -/
def asNat? : Value → Option Nat
  | integer n => if Width.Unsigned 64 n then some n.toNat else none
  | _ => none

/-- An integer of 64 bits. -/
def asInt? : Value → Option Int
  | integer n => if Width.Signed 64 n then some n else none
  | _ => none

/-- A list of values of one kind. -/
def asList? {α : Type} (item : Value → Option α) : Value → Option (List α)
  | list items => items.mapM item
  | _ => none

/-- The fields of a structure, by position and name.  Whether a list may be longer than the
structure is up to the format it was read from. -/
def fields? (surplus : Bool) (count : Nat) : Value → Option (Nat → String → Option Value)
  | table entries => some fun _ name => findEntry name entries
  | list items =>
    if !surplus && count < items.length then none else some fun index _ => items[index]?
  | _ => none

end Value

/-- A key without a value of the kind that was asked for. -/
structure NotFound where
  key : String
  deriving DecidableEq

/-- What was not found, in words. -/
def NotFound.message (e : NotFound) : String := "Failed to get '" ++ e.key ++ "': "

/-- The value under a dotted key, read as one of a kind.  Only what the layers hold is looked at,
not the defaults of the settings. -/
def get {α : Type} (config : Option Value) (read : Value → Option α) (key : String) :
    Except NotFound α :=
  match (config.bind (·.find? key)).bind read with
  | some value => .ok value
  | none => .error ⟨key⟩

end Config

namespace Settings

open Config

/-- A field, or its default where it is missing. -/
def orDefault {α : Type} (read : Value → Option α) (default : α) : Option Value → Option α
  | none => some default
  | some v => read v

/-- How the store settings are written. -/
def storeOf? (surplus : Bool) (v : Value) : Option StoreSettings := do
  let field ← v.fields? surplus 5
  let standard := StoreSettings.standard
  let uri ← orDefault Value.asText? standard.uri (field 0 "uri")
  let database ← orDefault Value.asText? standard.database (field 1 "database")
  let appName ← orDefault Value.asText? standard.appName (field 2 "app_name")
  let connect ← orDefault Value.asNat? standard.connectTimeoutMs (field 3 "connect_timeout_ms")
  let selection ← orDefault Value.asNat? standard.serverSelectionTimeoutMs
    (field 4 "server_selection_timeout_ms")
  pure ⟨uri, database, appName, connect, selection⟩

/-- How the administrator is written. -/
def bootstrapOf? (surplus : Bool) (v : Value) : Option Credential := do
  let field ← v.fields? surplus 4
  let user ← orDefault Value.asText? standardCredential.user (field 0 "admin_user")
  let password ← orDefault Value.asText? standardCredential.password (field 1 "admin_password")
  let role ← orDefault Value.asText? standardCredential.role (field 2 "admin_role")
  let database ← orDefault Value.asText? standardCredential.authDatabase (field 3 "auth_database")
  pure ⟨user, password, role, database⟩

/-- How the base directory is written. -/
def baseDirOf? (surplus : Bool) (v : Value) : Option String := do
  let field ← v.fields? surplus 1
  orDefault Value.asText? standardBaseDir (field 0 "base_dir")

/-- How a dataset is written; its name and its source have no default. -/
def datasetOf? (surplus : Bool) (v : Value) : Option DatasetEntry := do
  let field ← v.fields? surplus 4
  let name ← (field 0 "name").bind Value.asText?
  let source ← (field 1 "source").bind Value.asText?
  let indexFields ← orDefault (Value.asList? Value.asText?) DatasetEntry.standardIndexFields
    (field 2 "index_fields")
  let shardKey ← orDefault Value.asText? DatasetEntry.standardShardKey (field 3 "shard_key")
  pure ⟨name, source, indexFields, shardKey⟩

/-- How a kind of number is written: its name, or a table that holds nothing under its name. -/
def kindOf? : Value → Option NumericKind
  | .text s => NumericKind.ofName? s
  | .table [(s, .null)] => NumericKind.ofName? s
  | _ => none

/-- How a coercion rule is written. -/
def ruleOf? (surplus : Bool) (v : Value) : Option Coercion.Rule := do
  let field ← v.fields? surplus 2
  let name ← (field 0 "field").bind Value.asText?
  let kind ← (field 1 "kind").bind kindOf?
  pure ⟨name, kind⟩

/-- How settings are written. -/
def ofValue? (surplus : Bool) (v : Value) : Option Settings := do
  let field ← v.fields? surplus 5
  let store ← orDefault (storeOf? surplus) .standard (field 0 "store")
  let bootstrap ← orDefault (bootstrapOf? surplus) standardCredential (field 1 "bootstrap")
  let baseDir ← orDefault (baseDirOf? surplus) standardBaseDir (field 2 "data")
  let datasets ← orDefault (Value.asList? (datasetOf? surplus)) standardDatasets
    (field 3 "datasets")
  let coercion ← orDefault (Value.asList? (ruleOf? surplus)) standardCoercion (field 4 "coercion")
  pure ⟨store, bootstrap, baseDir, datasets, coercion⟩

/-- Settings written as JSON. -/
def ofJson? (json : Json) : Option Settings := ofValue? false (Value.ofJson json)

/-! ### Settings of a run -/

/-- Why a configuration gives no settings. -/
inductive ConfigFault where
  /-- The configuration cannot be read, or a value has the wrong kind. -/
  | malformed
  | refused (fault : Fault)
  deriving DecidableEq

/-- The text of a configuration fault. -/
def ConfigFault.message : ConfigFault → String
  | malformed => "the configuration cannot be read"
  | refused fault => fault.message

/-- A configuration fault as an error. -/
def ConfigFault.error (fault : ConfigFault) : Error := .invalidConfig fault.message

/-- The settings of a configuration, read and checked. -/
def ofConfig (config : Option Value) : Except ConfigFault Settings :=
  match config.bind (ofValue? true) with
  | none => .error .malformed
  | some settings =>
    match settings.check with
    | .ok () => .ok settings
    | .error fault => .error (.refused fault)

end Settings

end BulkProvision
