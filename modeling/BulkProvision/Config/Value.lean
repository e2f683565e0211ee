import BulkProvision.Json.Basic
import BulkProvision.Text.Split
import BulkProvision.Width

/-!
# Configuration values

The values that configuration is made of, whatever it was read from, and how layers of it are
merged: tables key by key, everything else as a whole (`Config.Value.merge`).  In a file a table may
wrap another value, and then stands for it (`Config.Value.unwrap?`).
-/

namespace BulkProvision

namespace Config

/-- A value of a configuration. -/
inductive Value where
  | null
  | bool (value : Bool)
  | integer (value : Int)
  | real (value : Binary64)
  | text (value : String)
  | list (items : List Value)
  | table (entries : List (String × Value))

namespace Value

/-- The entry of a table. -/
def findEntry (key : String) : List (String × Value) → Option Value
  | [] => none
  | (k, v) :: rest => if k = key then some v else findEntry key rest

/-- Gives a key of a table its value. -/
def setEntry (key : String) (value : Value) : List (String × Value) → List (String × Value)
  | [] => [(key, value)]
  | (k, v) :: rest =>
    if k = key then (k, value) :: rest else (k, v) :: setEntry key value rest

/-- The value under a key, in a table. -/
def get? : Value → String → Option Value
  | table entries, key => findEntry key entries
  | _, _ => none

/-- The value at the end of a path of keys. -/
def follow? (v : Value) : List String → Option Value
  | [] => some v
  | key :: rest =>
    match v.get? key with
    | some inner => inner.follow? rest
    | none => none

/-- The value under a dotted key.  An empty part ends the key. -/
def find? (v : Value) (dotted : String) : Option Value :=
  v.follow? ((Text.splitString '.' dotted).takeWhile (· ≠ ""))

/-- A value inside tables, one for each key. -/
def nest (v : Value) : List String → Value
  | [] => v
  | key :: rest => table [(key, nest v rest)]

/-- Two layers together: tables key by key, everything else from the upper layer. -/
def merge (lower : Value) : (upper : Value) → Value
  | table upper =>
    match lower with
    | table lower => table (mergeEntries lower upper)
    | _ => table upper
  | upper => upper
where
  /-- The entries of the upper table put over those of the lower one. -/
  mergeEntries (lower : List (String × Value)) : List (String × Value) → List (String × Value)
    | [] => lower
    | (key, value) :: rest =>
      let merged :=
        match findEntry key lower with
        | some under => merge under value
        | none => value
      mergeEntries (setEntry key merged lower) rest

/-! ### Values under another name -/

/-- The key under which a table holds the value it stands for. -/
def wrappedKey : String := "___figment_value_value"

/-- The key under which a table holds the number of the place it was read from.  It says nothing
about the value. -/
def originKey : String := "___figment_value_id"

/-- Whether a value is the number of a place. -/
def isOrigin : Value → Bool
  | integer n => Width.Unsigned 64 n
  | _ => false

/-- Whether the entry of a table that numbers a place, if there is one, does so. -/
def originHolds (entries : List (String × Value)) : Bool :=
  (findEntry originKey entries).all isOrigin

/-- The value that a table stands for: the one it wraps, or the table itself. -/
def ofTable (entries : List (String × Value)) : Value :=
  (findEntry wrappedKey entries).getD (table (entries.filter (·.1 ≠ originKey)))

mutual

/-- A value with everything in it unwrapped; nothing when a place has no number. -/
def unwrap? : Value → Option Value
  | table entries => do
    let unwrapped ← unwrapEntries? entries
    if originHolds entries then pure (ofTable unwrapped) else none
  | list items => list <$> unwrapItems? items
  | v => some v

/-- Items unwrapped. -/
def unwrapItems? : List Value → Option (List Value)
  | [] => some []
  | item :: rest => do pure ((← unwrap? item) :: (← unwrapItems? rest))

/-- Entries with their values unwrapped. -/
def unwrapEntries? : List (String × Value) → Option (List (String × Value))
  | [] => some []
  | (key, value) :: rest => do pure ((key, ← unwrap? value) :: (← unwrapEntries? rest))

end

/-- A JSON value as configuration. -/
def ofJson : Json → Value
  | .null => null
  | .bool b => bool b
  | .integer n => integer n
  | .real x => real x
  | .text s => text s
  | .array items => list (ofItems items)
  | .object fields => table (ofFields fields)
where
  /-- The items of an array. -/
  ofItems : List Json → List Value
    | [] => []
    | item :: rest => ofJson item :: ofItems rest
  /-- The fields of an object. -/
  ofFields : List (String × Json) → List (String × Value)
    | [] => []
    | (name, value) :: rest => (name, ofJson value) :: ofFields rest

end Value

end Config

end BulkProvision
