import BulkProvision.Numeral
import BulkProvision.Record
import BulkProvision.Text.Blank

/-!
# Reading numbers out of text

Sources are inconsistent about quoting numbers.  A coercion rule names a field whose text is read
as a number: the longest numeric beginning of the text counts, blanks around it do not, and a
text without a numeric beginning becomes a NaN.

`Coercion.readText` reads one text, `Coercion.apply` applies rules to a record and counts.
-/

namespace BulkProvision

open Text

/-- What a text is read as. -/
inductive NumericKind where
  /-- A continuous measurement, held as a double. -/
  | float
  /-- A count: a sign and digits, decimal or hexadecimal. -/
  | integer
  deriving DecidableEq

namespace NumericKind

/-- The name of a kind. -/
def name : NumericKind → String
  | float => "float"
  | integer => "integer"

/-- The kind of that name. -/
def ofName? (s : String) : Option NumericKind := [float, integer].find? (·.name = s)

end NumericKind

namespace Coercion

/-- A field whose text is read as a number. -/
structure Rule where
  field : String
  kind : NumericKind
  deriving DecidableEq

/-- How many fields were converted, and how many held no number and became NaN. -/
structure Stats where
  converted : Nat
  unparseable : Nat
  deriving DecidableEq

namespace Stats

/-- Nothing counted. -/
def zero : Stats := ⟨0, 0⟩

/-- Both counts together. -/
def add (a b : Stats) : Stats := ⟨a.converted + b.converted, a.unparseable + b.unparseable⟩

instance : Add Stats := ⟨add⟩

end Stats

/-! ### Texts -/

/-- The double of the longest numeral at the front of a text. -/
def leadingFloat (s : List Char) : Binary64 :=
  match Numeral.scan s with
  | none => .nan
  | some (numeral, _) => numeral.value

/-- The sign, radix and digits at the front of a text: a sign, then `0x` or `0X` for the radix
sixteen, then the longest run of digits of the radix. -/
structure IntegerText where
  negative : Bool
  radix : Nat
  digits : List Char
  deriving DecidableEq

/-- Drops `0x` or `0X` and says which radix follows. -/
def takeRadix : List Char → Nat × List Char
  | '0' :: x :: rest => if x = 'x' ∨ x = 'X' then (16, rest) else (10, '0' :: x :: rest)
  | s => (10, s)

/-- The integer at the front of a text, as written. -/
def leadingInteger (s : List Char) : IntegerText :=
  let signed := Numeral.takeSign s
  let body := takeRadix signed.2
  ⟨signed.1 = some '-', body.1, body.2.takeWhile (isDigit body.1)⟩

/-- Digits as a double, one after the other: the double so far times the radix plus the digit,
each step rounded. -/
def foldDigits (radix : Nat) (digits : List Char) : Binary64 :=
  digits.foldl
    (fun x c => (x.mul (Binary64.ofNat radix)).add (Binary64.ofNat (digitValue c)))
    (Binary64.zero false)

/-- The exact value of an integer as written. -/
def IntegerText.exact (t : IntegerText) : Int :=
  if t.negative then -(ofDigits t.radix t.digits : Int) else ofDigits t.radix t.digits

/-- The value of an integer as written.  One that does not fit 64 bits is kept as a double. -/
def IntegerText.value (t : IntegerText) : Scalar :=
  if t.digits = [] then .float .nan
  else if Width.Signed 64 t.exact then .int t.exact
  else
    let magnitude := foldDigits t.radix t.digits
    .float (if t.negative then magnitude.neg else magnitude)

/-- Reads a text as a number of that kind. -/
def readText (s : String) : NumericKind → Scalar
  | .float => .float (leadingFloat (trim s.toList))
  | .integer => (leadingInteger (trim s.toList)).value

/-! ### Records -/

/-- Applies one rule: a text in the field is read and counted, everything else stays. -/
def applyRule (state : Record × Stats) (rule : Rule) : Record × Stats :=
  match (state.1.get? rule.field).bind Scalar.asText with
  | none => state
  | some s =>
    let value := readText s rule.kind
    (state.1.insert rule.field value,
      state.2 + if value.isNaN then ⟨0, 1⟩ else ⟨1, 0⟩)

/-- Applies the rules to a record, in order. -/
def apply (rules : List Rule) (record : Record) : Record × Stats :=
  rules.foldl applyRule (record, Stats.zero)

end Coercion

end BulkProvision
