import BulkProvision.Record

/-!
# Schemas

A schema names the fields that must be there and the types that some fields must have.  It is
permissive: a field without a type is not constrained, and a typed field may be absent unless it
is also required.
-/

namespace BulkProvision

/-- The type a field can be held to. -/
inductive FieldType where
  | string
  | double
  | long
  /-- Integers and doubles. -/
  | number
  | bool
  | null
  deriving DecidableEq

namespace FieldType

/-- The name of a type, in configuration and in validators. -/
def name : FieldType → String
  | string => "string"
  | double => "double"
  | long => "long"
  | number => "number"
  | bool => "bool"
  | null => "null"

/-- The type of that name. -/
def ofName? (s : String) : Option FieldType :=
  [string, double, long, number, bool, null].find? (·.name = s)

/-- Whether a value has the type. -/
def accepts : FieldType → Scalar → Bool
  | string, .text _ => true
  | double, .float _ => true
  | long, .int _ => true
  | number, .int _ => true
  | number, .float _ => true
  | bool, .bool _ => true
  | null, .null => true
  | _, _ => false

end FieldType

/-- What a collection asks of its documents. -/
structure Schema where
  required : NameSet
  types : NameMap FieldType
  deriving DecidableEq

namespace Schema

/-- The schema in which every listed field is both required and typed. -/
def requiring (fields : List (String × FieldType)) : Schema :=
  let types := NameMap.ofList fields
  ⟨types.map fun _ => (), types⟩

/-- The schema of the weather stations: the identifying fields are required texts. -/
def station : Schema :=
  requiring [("station_id", .string), ("date", .string), ("location", .string)]

/-- Why a record does not conform. -/
inductive Violation where
  | missing (field : String)
  | mistyped (field : String) (type : FieldType)
  deriving DecidableEq

/-- What is wrong with the record. -/
def Violation.message : Violation → String
  | missing field => "missing required field '" ++ field ++ "'"
  | mistyped field type => "field '" ++ field ++ "' must be of type " ++ type.name

/-- The first required field, ascending, that the record lacks. -/
def firstMissing? (s : Schema) (r : Record) : Option String :=
  s.required.names.find? fun field => !r.contains field

/-- Whether a field of the record, if it is there, has the type. -/
def typeHolds (r : Record) (field : String) (type : FieldType) : Bool :=
  (r.get? field).all type.accepts

/-- The first typed field, ascending, whose value has another type. -/
def firstMistyped? (s : Schema) (r : Record) : Option (String × FieldType) :=
  s.types.entries.find? fun e => !typeHolds r e.1 e.2

/-- Checks a record; missing fields are named before mistyped ones. -/
def check (s : Schema) (r : Record) : Except Violation Unit :=
  match s.firstMissing? r with
  | some field => .error (.missing field)
  | none =>
    match s.firstMistyped? r with
    | some (field, type) => .error (.mistyped field type)
    | none => .ok ()

/-- Whether a record conforms. -/
def accepts (s : Schema) (r : Record) : Bool :=
  (s.firstMissing? r).isNone && (s.firstMistyped? r).isNone

theorem check_eq_ok_iff {s : Schema} {r : Record} : s.check r = .ok () ↔ s.accepts r = true := by
  unfold check accepts
  cases s.firstMissing? r <;> cases s.firstMistyped? r <;> simp

end Schema

/-- How a validator treats writes that do not conform. -/
inductive Enforcement where
  /-- Every such write is refused. -/
  | strict
  /-- Documents that did not conform before may still be updated. -/
  | moderate
  deriving DecidableEq

namespace Enforcement

/-- The name of a level. -/
def name : Enforcement → String
  | strict => "strict"
  | moderate => "moderate"

/-- The level of that name. -/
def ofName? (s : String) : Option Enforcement := [strict, moderate].find? (·.name = s)

/-- The level that holds unless another is named. -/
def standard : Enforcement := strict

end Enforcement

end BulkProvision
