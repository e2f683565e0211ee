import BulkProvision.Binary64

/-!
# JSON values

A JSON value as read from a text.  The fields of an object stand in source order, each name once
(`Json.setField`).  A number without fraction and exponent that fits 64 bits stays an integer;
every other number is a double.
-/

namespace BulkProvision

/-- A JSON value. -/
inductive Json where
  | null
  | bool (value : Bool)
  | integer (value : Int)
  | real (value : Binary64)
  | text (value : String)
  | array (items : List Json)
  | object (fields : List (String × Json))

namespace Json

/-- Gives a field of an object its value.  A name that is there already keeps its position. -/
def setField (name : String) (value : Json) : List (String × Json) → List (String × Json)
  | [] => [(name, value)]
  | (n, v) :: rest =>
    if n = name then (n, value) :: rest else (n, v) :: setField name value rest

/-- The fields of an object as they are read one after the other. -/
def objectOf (fields : List (String × Json)) : Json :=
  object (fields.foldl (fun fs f => setField f.1 f.2 fs) [])

end Json

end BulkProvision
