import BulkProvision.NameMap
import BulkProvision.Scalar

/-!
# Records

A record maps field names to scalars.  Fields that no schema names are carried along untouched.
-/

namespace BulkProvision

/-- One document of a source: field names with scalar values. -/
abbrev Record := NameMap Scalar

namespace Record

/-- A field whose value is an array or an object. -/
structure NotScalar where
  field : String
  deriving DecidableEq

/-- What is wrong with the field. -/
def NotScalar.message (e : NotScalar) : String := "field '" ++ e.field ++ "' is not a scalar value"

/-- The fields of an object as a record.  The fault named is that of the first field, in source
order, that is not scalar. -/
def ofFields (fields : List (String × Json)) : Except NotScalar Record :=
  go NameMap.empty fields
where
  /-- Adds the fields to those read so far. -/
  go (record : Record) : List (String × Json) → Except NotScalar Record
    | [] => .ok record
    | (name, value) :: rest =>
      match Scalar.ofJson? value with
      | none => .error ⟨name⟩
      | some scalar => go (record.insert name scalar) rest

/-- Equality of records: the same names with equal values. -/
def sameValues (a b : Record) : Bool :=
  a.entries.length == b.entries.length &&
    (a.entries.zip b.entries).all fun (x, y) => x.1 == y.1 && x.2.sameValue y.2

end Record

end BulkProvision
