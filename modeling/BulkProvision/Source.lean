import BulkProvision.Catalog
import BulkProvision.Json.Reader

/-!
# Sources

A source is a file that holds a JSON array of flat objects, one record each.  `Source.read` turns
it into records, `Source.load` also coerces them and holds them to a schema.  Whatever is wrong
with a source is a fault of its dataset alone.
-/

namespace BulkProvision

namespace Source

/-- What is wrong with a source. -/
inductive Fault where
  | missing (path : String)
  | undecodable (path : String)
  | notArray (path : String)
  | notObject (index : Nat)
  | notScalar (index : Nat) (field : Record.NotScalar)
  | violation (index : Nat) (violation : Schema.Violation)
  deriving DecidableEq

/-- What is wrong, in words. -/
def Fault.message : Fault → String
  | missing path => "source file " ++ path ++ " does not exist"
  | undecodable path => "cannot read " ++ path ++ ": stream did not contain valid UTF-8"
  | notArray path => path ++ " is not a JSON array"
  | notObject index => "record " ++ toString index ++ " is not an object"
  | notScalar index field => "record " ++ toString index ++ ": " ++ field.message
  | violation index v => "record " ++ toString index ++ ": " ++ v.message

/-- A fault as the error of a dataset. -/
def Fault.error (dataset : String) (fault : Fault) : Error := .dataFormat dataset fault.message

/-! ### Reading -/

/-- The items of the array a file holds. -/
def items (files : FileTree) (path : String) : Except Fault (List Json) :=
  match files.find? path with
  | some (.text content) =>
    match Json.ofText? content with
    | some (.array items) => .ok items
    | _ => .error (.notArray path)
  | some .undecodable => .error (.undecodable path)
  | _ => .error (.missing path)

/-- The record of an item at a position. -/
def record (index : Nat) : Json → Except Fault Record
  | .object fields =>
    match Record.ofFields fields with
    | .ok record => .ok record
    | .error field => .error (.notScalar index field)
  | _ => .error (.notObject index)

/-- The records of items from a position on, up to the first that is none. -/
def recordsFrom (index : Nat) : List Json → Except Fault (List Record)
  | [] => .ok []
  | item :: rest =>
    match record index item with
    | .error fault => .error fault
    | .ok first =>
      match recordsFrom (index + 1) rest with
      | .error fault => .error fault
      | .ok others => .ok (first :: others)

/-- The records of a file, neither coerced nor checked. -/
def read (files : FileTree) (path : String) : Except Fault (List Record) :=
  match items files path with
  | .error fault => .error fault
  | .ok items => recordsFrom 0 items

/-! ### Loading -/

/-- Records ready for insertion, and what coercion did to them. -/
structure Loaded where
  records : List Record
  coercion : Coercion.Stats
  deriving DecidableEq

/-- Coerces and checks records from a position on, up to the first that violates the schema. -/
def prepareFrom (rules : List Coercion.Rule) (schema : Schema) (index : Nat) :
    List Record → Except Fault Loaded
  | [] => .ok ⟨[], .zero⟩
  | record :: rest =>
    let coerced := Coercion.apply rules record
    match schema.check coerced.1 with
    | .error v => .error (.violation index v)
    | .ok () =>
      match prepareFrom rules schema (index + 1) rest with
      | .error fault => .error fault
      | .ok loaded => .ok ⟨coerced.1 :: loaded.records, coerced.2 + loaded.coercion⟩

/-- The records of a file, coerced and checked. -/
def load (files : FileTree) (rules : List Coercion.Rule) (schema : Schema) (path : String) :
    Except Fault Loaded :=
  match read files path with
  | .error fault => .error fault
  | .ok records => prepareFrom rules schema 0 records

/-! ### Datasets -/

/-- The records of a dataset, ready for insertion. -/
def loadDataset (files : FileTree) (rules : List Coercion.Rule) (dataset : Dataset)
    (schema : Schema) : Except Error Loaded :=
  match load files rules schema dataset.sourcePath with
  | .ok loaded => .ok loaded
  | .error fault => .error (fault.error dataset.name)

/-- How many records the source of a dataset has. -/
def countRecords (files : FileTree) (dataset : Dataset) : Except Error Nat :=
  match read files dataset.sourcePath with
  | .ok records => .ok records.length
  | .error fault => .error (fault.error dataset.name)

/-- How many datasets have no source file. -/
def countMissing (files : FileTree) (catalog : Catalog) : Nat :=
  catalog.countP fun dataset => !files.isFile dataset.sourcePath

end Source

end BulkProvision
