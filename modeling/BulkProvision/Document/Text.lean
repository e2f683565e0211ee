import BulkProvision.Binary64.Shortest
import BulkProvision.Document.Basic

/-!
# The text of a document

How documents are shown to a reader.  The text is not meant to be read back: strings stand between
quotes as they are, and the widths of integers do not show.
-/

namespace BulkProvision

namespace Document

/-- Items between brackets. -/
def bracketed (items : List String) : String := "[" ++ ", ".intercalate items ++ "]"

/-- Fields between braces. -/
def braced (fields : List String) : String :=
  if fields.isEmpty then "\x7b\x7d" else "\x7b " ++ ", ".intercalate fields ++ " \x7d"

/-- The text of a value. -/
def Value.render : Value → String
  | null => "null"
  | bool b => if b then "true" else "false"
  | int32 n => toString n
  | int64 n => toString n
  | double x => x.text
  | text s => "\"" ++ s ++ "\""
  | array items => bracketed (itemTexts items)
  | document fields => braced (fieldTexts fields)
where
  /-- The texts of items. -/
  itemTexts : List Value → List String
    | [] => []
    | item :: rest => item.render :: itemTexts rest
  /-- The texts of fields. -/
  fieldTexts : List (String × Value) → List String
    | [] => []
    | (name, value) :: rest => ("\"" ++ name ++ "\": " ++ value.render) :: fieldTexts rest

/-- The text of a document. -/
def render (d : Document) : String := (Value.document d).render

end Document

end BulkProvision
