import BulkProvision.Document.Validator
import BulkProvision.Proofs.Slot

/-!
# What a validator accepts

A store is told about a schema by a document, `Document.validator`, and reads that document by
rules of its own: `Document.satisfies` is this reading.  Records are sent as documents too.

Both sides agree: a record passes the check of a schema exactly when the document it is sent as
satisfies the validator of the schema (`check_iff_satisfies`).  So the store in memory takes a
batch exactly when a cluster that reads the validator would take every document of it
(`accepted_iff_satisfies`).
-/

namespace BulkProvision

namespace Document

/-! ### Reading a validator -/

/-- The names by which a validator can ask for the type of a value.  A number of any width has a
name besides that of its width. -/
def Value.typeNames : Value → List String
  | .null => ["null"]
  | .bool _ => ["bool"]
  | .int32 _ => ["int", "number"]
  | .int64 _ => ["long", "number"]
  | .double _ => ["double", "number"]
  | .text _ => ["string"]
  | .array _ => ["array"]
  | .document _ => ["object"]

/-- The field of that name, in a value that is a document. -/
def Value.field? (name : String) : Value → Option Value
  | .document fields => get? fields name
  | _ => none

/-- Whether a document has every field of a list of names; values that are no documents are not
asked for fields. -/
def Value.hasFields (names : List Value) : Value → Bool
  | .document fields =>
    names.all fun
      | .text name => (get? fields name).isSome
      | _ => false
  | _ => true

/-- Whether a value meets a schema document.  Three keywords ask for something: the type of the
value, fields that must be there, and the schemas of fields that may be there.  Others, such as a
description, ask for nothing. -/
def Value.meets : (schema value : Value) → Bool
  | .document keywords, value => keywordsHold keywords value
  | _, _ => false
where
  /-- Whether every keyword holds. -/
  keywordsHold : List (String × Value) → Value → Bool
    | [], _ => true
    | (keyword, operand) :: rest, value =>
      keywordHolds keyword operand value && keywordsHold rest value
  /-- Whether a keyword holds, by the kind of its operand. -/
  keywordHolds (keyword : String) : (operand value : Value) → Bool
    | .text type, value => keyword != "bsonType" || value.typeNames.contains type
    | .array names, value => keyword != "required" || value.hasFields names
    | .document properties, value => keyword != "properties" || propertiesHold properties value
    | _, _ => true
  /-- Whether every listed field that is there meets its schema. -/
  propertiesHold : List (String × Value) → Value → Bool
    | [], _ => true
    | (field, schema) :: rest, value =>
      (value.field? field).all schema.meets && propertiesHold rest value

/-- Whether a document satisfies a validator. -/
def satisfies (validator d : Document) : Bool :=
  validator.all fun (operator, schema) => operator == "$jsonSchema" && schema.meets (.document d)

/-! ### The validator of a schema -/

theorem meets_fieldRule (schema : Schema) (field : String) (type : FieldType) (value : Value) :
    (fieldRule schema field type).meets value = value.typeNames.contains type.name := by
  simp [fieldRule, Value.meets, Value.meets.keywordsHold, Value.meets.keywordHolds]

theorem propertiesHold_iff (schema : Schema) (types : List (String × FieldType)) (d : Document) :
    Value.meets.propertiesHold (types.map fun e => (e.1, fieldRule schema e.1 e.2))
        (.document d) = true ↔
      ∀ e ∈ types, ∀ value, d.get? e.1 = some value → e.2.name ∈ value.typeNames := by
  induction types with
  | nil => simp [Value.meets.propertiesHold]
  | cons e rest ih =>
    rw [List.map_cons, Value.meets.propertiesHold, Bool.and_eq_true, ih, List.forall_mem_cons,
      Value.field?, Option.all_eq_true]
    simp only [meets_fieldRule, List.contains_iff_mem]

theorem hasFields_iff (names : List String) (d : Document) :
    Value.hasFields (names.map Value.text) (.document d) = true ↔
      ∀ name ∈ names, (d.get? name).isSome := by
  simp [Value.hasFields]

/-- **What the validator of a schema asks of a document**: every required field is there, and a
typed field that is there has its type.  Nothing is asked of other fields. -/
theorem satisfies_validator_iff (schema : Schema) (d : Document) :
    satisfies (validator schema) d = true ↔
      (∀ name ∈ schema.required.names, (d.get? name).isSome) ∧
        ∀ e ∈ schema.types.entries, ∀ value, d.get? e.1 = some value →
          e.2.name ∈ value.typeNames := by
  rw [← hasFields_iff, ← propertiesHold_iff schema]
  simp [satisfies, validator, Value.meets, Value.meets.keywordsHold, Value.meets.keywordHolds,
    Value.typeNames]

/-! ### Records as documents -/

theorem get?_ofRecord (record : Record) (name : String) :
    (ofRecord record).get? name = (record.get? name).map Value.ofScalar := by
  rw [ofRecord, NameMap.get?, get?]
  generalize record.entries = entries
  induction entries with
  | nil => rfl
  | cons e rest ih =>
    by_cases hname : e.1 = name
    · simp [NameMap.findEntry, hname]
    · simpa [NameMap.findEntry, hname] using ih

/-- The tables agree: a scalar has a type in the sense of a schema exactly when the value it is
sent as goes by the name of the type. -/
theorem mem_typeNames_ofScalar (type : FieldType) (x : Scalar) :
    type.name ∈ (Value.ofScalar x).typeNames ↔ type.accepts x = true := by
  cases type <;> cases x <;>
    simp [FieldType.name, FieldType.accepts, Value.ofScalar, Value.typeNames]

end Document

/-! ### The local check -/

namespace Schema

theorem check_eq_ok_iff_get? {schema : Schema} {record : Record} :
    schema.check record = .ok () ↔
      (∀ name ∈ schema.required.names, (record.get? name).isSome) ∧
        ∀ e ∈ schema.types.entries, ∀ x, record.get? e.1 = some x → e.2.accepts x = true := by
  rw [check_eq_ok_iff, accepts, Bool.and_eq_true, Option.isNone_iff_eq_none,
    Option.isNone_iff_eq_none, firstMissing?, firstMistyped?, List.find?_eq_none,
    List.find?_eq_none]
  simp [NameMap.contains, typeHolds, Option.all_eq_true, Option.isSome_iff_ne_none]

/-- **The check and the validator agree** on every record. -/
theorem check_iff_satisfies (schema : Schema) (record : Record) :
    schema.check record = .ok () ↔
      Document.satisfies (Document.validator schema) (Document.ofRecord record) = true := by
  rw [check_eq_ok_iff_get?, Document.satisfies_validator_iff]
  refine and_congr ?_ ?_
  · simp only [Document.get?_ofRecord, Option.isSome_map]
  · simp only [Document.get?_ofRecord, Option.map_eq_some_iff, forall_exists_index, and_imp,
      forall_apply_eq_imp_iff₂, Document.mem_typeNames_ofScalar]

end Schema

namespace Store

open Document

/-- A strict collection takes a batch exactly when all of it conforms. -/
theorem MemoryStore.insertMany_ok_iff {s : MemoryStore} {name : String} {schema : Schema}
    {records : List Record} (hvalidator : s.validator? name = some (schema, .strict))
    (hfault : s.fault? "insert_many" name = none) :
    (∃ n, (handle (.insertMany name records) s).1 = .ok n) ↔
      ∀ record ∈ records, schema.check record = .ok () := by
  have hrefusal : (s.slot name).refusal? "insert_many" name = none := by
    rw [Slot.refusal?, show (s.slot name).fault? "insert_many" = none from hfault]
    rfl
  have hguard : (s.slot name).collection.guard? = some schema := by
    rw [validator?_eq] at hvalidator
    rw [Collection.guard?, show (s.slot name).collection = s.collection name from rfl, hvalidator]
  rw [← firstViolation?_eq_none_iff, handle_insertMany, hrefusal, hguard, Option.bind_some]
  cases firstViolation? schema records with
  | none => simp
  | some found => simp

/-- **The check of a schema and its validator accept the same records.**  So a strict collection of
the store in memory takes a batch exactly when every document of it satisfies the validator that a
cluster is given. -/
theorem accepted_iff_satisfies (schema : Schema) :
    (∀ record, schema.check record = .ok () ↔
      satisfies (validator schema) (ofRecord record) = true) ∧
    ∀ (s : MemoryStore) (name : String) (records : List Record),
      s.validator? name = some (schema, .strict) → s.fault? "insert_many" name = none →
      ((∃ n, (MemoryStore.handle (.insertMany name records) s).1 = .ok n) ↔
        ∀ record ∈ records, satisfies (validator schema) (ofRecord record) = true) := by
  refine ⟨schema.check_iff_satisfies, fun s name records hvalidator hfault => ?_⟩
  rw [MemoryStore.insertMany_ok_iff hvalidator hfault]
  simp only [schema.check_iff_satisfies]

/-- A required field without a type, and a type for a field that is not required. -/
def readingSchema : Schema :=
  ⟨NameSet.ofList ["station_id"], NameMap.ofList [("reading", .number)]⟩

/-- A collection held to that schema. -/
def readingStore : MemoryStore :=
  MemoryStore.empty.setCollection "readings"
    { Collection.fresh with validator := some (readingSchema, .strict) }

/-- The second batch has a reading that is no number. -/
theorem accepted_iff_satisfies_readings :
    let good : List Record :=
      [NameMap.ofList [("station_id", .null)],
        NameMap.ofList [("station_id", .int 7), ("reading", .float .nan), ("unit", .text "C")]]
    let bad : List Record :=
      good ++ [NameMap.ofList [("station_id", .int 7), ("reading", .text "12.5")]]
    readingStore.validator? "readings" = some (readingSchema, .strict) ∧
      readingStore.fault? "insert_many" "readings" = none ∧
      (∃ n, (MemoryStore.handle (.insertMany "readings" good) readingStore).1 = .ok n) ∧
      ¬ ∃ n, (MemoryStore.handle (.insertMany "readings" bad) readingStore).1 = .ok n := by
  intro good bad
  have hvalidator : readingStore.validator? "readings" = some (readingSchema, .strict) := by
    decide +kernel
  obtain ⟨-, haccepted⟩ := accepted_iff_satisfies readingSchema
  refine ⟨hvalidator, rfl, ?_, ?_⟩
  · rw [haccepted readingStore "readings" good hvalidator rfl]
    decide +kernel
  · rw [haccepted readingStore "readings" bad hvalidator rfl]
    decide +kernel

end Store

end BulkProvision
