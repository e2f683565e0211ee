import BulkProvision.Binary64

/-!
# Documents

The ordered documents that a document store keeps, is commanded by and replies with.  Unlike JSON
they tell integers of 32 bits, integers of 64 bits and doubles apart.
-/

namespace BulkProvision

/-- The value of a field of a document. -/
inductive Document.Value where
  | null
  | bool (value : Bool)
  | int32 (value : Int)
  | int64 (value : Int)
  | double (value : Binary64)
  | text (value : String)
  | array (items : List Document.Value)
  | document (fields : List (String × Document.Value))

/-- A document: its fields in order. -/
abbrev Document := List (String × Document.Value)

namespace Document

instance : Coe String Value := ⟨Value.text⟩

instance (n : Nat) : OfNat Value n := ⟨Value.int32 n⟩

/-- The document with a single field, as a value. -/
def Value.single (name : String) (operand : Value) : Value := .document [(name, operand)]

/-- The first field of that name. -/
def get? (d : Document) (name : String) : Option Value := (d.find? (·.1 = name)).map (·.2)

end Document

end BulkProvision
