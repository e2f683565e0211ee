import BulkProvision.Json.Basic
import BulkProvision.Width

/-!
# Scalars

The values a field of a record can have: no arrays, no objects.
-/

namespace BulkProvision

/-- The value of a field. -/
inductive Scalar where
  | null
  | bool (value : Bool)
  /-- A 64-bit integer. -/
  | int (value : Int)
  | float (value : Binary64)
  | text (value : String)
  deriving DecidableEq

namespace Scalar

/-- The text, if it is one. -/
def asText : Scalar → Option String
  | text s => some s
  | _ => none

/-- The number as a double, if it is one. -/
def asDouble : Scalar → Option Binary64
  | int n => some (Binary64.ofInt n)
  | float x => some x
  | _ => none

/-- Whether it holds a NaN. -/
def isNaN : Scalar → Bool
  | float x => x.isNaN
  | _ => false

/-- Equality of values: doubles compare as numbers, so a NaN differs from itself and the two
zeros are equal; an integer never equals a double. -/
def sameValue : Scalar → Scalar → Bool
  | null, null => true
  | bool a, bool b => a == b
  | int a, int b => a == b
  | float a, float b => a.numericEq b
  | text a, text b => a == b
  | _, _ => false

/-- A JSON value as a scalar; arrays and objects are none.  An integer of more than 64 bits with
sign becomes a double. -/
def ofJson? : Json → Option Scalar
  | .null => some null
  | .bool b => some (bool b)
  | .integer n => some (if Width.Signed 64 n then int n else float (Binary64.ofInt n))
  | .real x => some (float x)
  | .text s => some (text s)
  | .array _ => none
  | .object _ => none

end Scalar

end BulkProvision
