import BulkProvision.Document.Basic
import BulkProvision.Store.Basic

/-!
# Records, schemas and keys as documents

How a store is told about records, about the schema of a collection (`Document.validator`) and
about the key a collection is partitioned by (`Document.shardKey`).
-/

namespace BulkProvision

namespace Document

/-- A scalar as a value. -/
def Value.ofScalar : Scalar → Value
  | .null => .null
  | .bool b => .bool b
  | .int n => .int64 n
  | .float x => .double x
  | .text s => .text s

/-- A record as a document, its fields ascending. -/
def ofRecord (record : Record) : Document :=
  record.entries.map fun e => (e.1, Value.ofScalar e.2)

/-- What the validator says about a typed field, in words. -/
def fieldDescription (field : String) (type : FieldType) (required : Bool) : String :=
  field ++ " must be a " ++ type.name ++ if required then " and is required" else ""

/-- What the validator asks of a typed field. -/
def fieldRule (schema : Schema) (field : String) (type : FieldType) : Value :=
  .document
    [("bsonType", type.name),
      ("description", fieldDescription field type (schema.required.contains field))]

/-- The validator of a collection held to a schema.  Fields it does not list are free. -/
def validator (schema : Schema) : Document :=
  [("$jsonSchema", .document
    [("bsonType", "object"),
      ("required", .array (schema.required.names.map Value.text)),
      ("properties",
        .document (schema.types.entries.map fun e => (e.1, fieldRule schema e.1 e.2)))])]

/-- The key a collection is partitioned by. -/
def shardKey (field : String) : KeyStrategy → Document
  | .hashed => [(field, "hashed")]
  | .ranged => [(field, 1)]

end Document

end BulkProvision
