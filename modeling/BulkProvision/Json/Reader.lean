import BulkProvision.Json.Number
import BulkProvision.Text.Reader

/-!
# Reading JSON

The grammar is that of RFC 8259 and nothing more: no byte order mark, no trailing comma, only
space, tab, line feed and carriage return as blanks, no raw control character in a string, and no
escape that stands for half of a surrogate pair.  Arrays and objects may be nested `depthLimit`
deep.
-/

namespace BulkProvision

open Text Text.Reader

namespace Json

/-- How deep arrays and objects may be nested. -/
def depthLimit : Nat := 127

/-- The blanks between tokens. -/
def isSpace (c : Char) : Bool := c == ' ' || c == '\t' || c == '\n' || c == '\r'

/-- Drops blanks. -/
def skipSpace : Reader Unit := skipWhile isSpace

/-- A character after blanks. -/
def token (c : Char) : Reader Unit := do
  skipSpace
  char c

/-! ### Strings -/

/-- Four hexadecimal digits. -/
def hexQuad : Reader Nat := do
  let a ← satisfy (isDigit 16)
  let b ← satisfy (isDigit 16)
  let c ← satisfy (isDigit 16)
  let d ← satisfy (isDigit 16)
  pure (ofDigits 16 [a, b, c, d])

/-- The character of a code, or of a surrogate pair that starts with this code. -/
def codeChar (code : Nat) : Reader Char := do
  if 0xD800 ≤ code ∧ code < 0xDC00 then
    literal ['\\', 'u']
    let low ← hexQuad
    if 0xDC00 ≤ low ∧ low < 0xE000 then
      StateT.lift (charOfCode? (0x10000 + (code - 0xD800) * 0x400 + (low - 0xDC00)))
    else failure
  else StateT.lift (charOfCode? code)

/-- What follows a backslash. -/
def escaped : Reader Char := do
  match ← next with
  | '"' => pure '"'
  | '\\' => pure '\\'
  | '/' => pure '/'
  | 'b' => pure '\x08'
  | 'f' => pure '\x0c'
  | 'n' => pure '\n'
  | 'r' => pure '\r'
  | 't' => pure '\t'
  | 'u' => codeChar (← hexQuad)
  | _ => failure

/-- The characters up to the closing quote. -/
def stringBody : Nat → Reader (List Char)
  | 0 => failure
  | rounds + 1 => do
    let c ← next
    if c = '"' then pure []
    else if c = '\\' then
      let e ← escaped
      let rest ← stringBody rounds
      pure (e :: rest)
    else if c.toNat < 0x20 then failure
    else
      let rest ← stringBody rounds
      pure (c :: rest)

/-- A string between quotes. -/
def string : Reader String := do
  char '"'
  let body ← stringBody (← remaining)
  pure (String.ofList body)

/-! ### Numbers -/

/-- The digits of an exponent, after its letter. -/
def exponentPart : Reader (Bool × List Char) := do
  let down ← skipsChar '-'
  if !down then
    let _ ← skipsChar '+'
  let digits ← takeSome isDecimal
  pure (down, digits)

/-- A number. -/
def number : Reader Json := do
  let negative ← skipsChar '-'
  let whole ← takeSome isDecimal
  if whole.head? = some '0' ∧ whole.length ≠ 1 then failure
  let fraction ← if ← skipsChar '.' then takeSome isDecimal else pure []
  let letter ← peek
  let exponent ←
    if letter = some 'e' ∨ letter = some 'E' then do
      let _ ← next
      some <$> exponentPart
    else pure none
  StateT.lift (NumberText.value ⟨negative, whole, fraction, exponent⟩)

/-! ### Values -/

/-- A field of an object: its name, a colon and its value. -/
def field (value : Reader Json) : Reader (String × Json) := do
  skipSpace
  let name ← string
  token ':'
  let v ← value
  pure (name, v)

/-- Whether a comma comes next; it is taken if so. -/
def comma : Reader Bool := do
  skipSpace
  skipsChar ','

/-- Items between an opening character that was taken and a closing one. -/
def group {α : Type} (item : Reader α) (close : Char) : Reader (List α) := do
  skipSpace
  if ← skipsChar close then pure []
  else
    let items ← separated item comma (← remaining)
    token close
    pure items

/-- A value whose items and fields are read by the inner reader, where there is one. -/
def valueWith (inner : Option (Reader Json)) : Reader Json := do
  skipSpace
  match ← peek with
  | some 'n' => literal ['n', 'u', 'l', 'l']; pure null
  | some 't' => literal ['t', 'r', 'u', 'e']; pure (bool true)
  | some 'f' => literal ['f', 'a', 'l', 's', 'e']; pure (bool false)
  | some '"' => text <$> string
  | some '[' =>
    let item ← StateT.lift inner
    char '['
    array <$> group item ']'
  | some '\x7b' =>
    let item ← StateT.lift inner
    char '\x7b'
    objectOf <$> group (field item) '\x7d'
  | _ => number

/-- A value with at most `depth` arrays and objects around one another. -/
def value : (depth : Nat) → Reader Json
  | 0 => valueWith none
  | depth + 1 => valueWith (some (value depth))

/-- A text that holds one value and blanks. -/
def document : Reader Json := do
  let v ← value depthLimit
  skipSpace
  atEnd
  pure v

/-- Reads a JSON text; nothing when it is not well formed. -/
def ofText? (s : String) : Option Json := readAll document s.toList

end Json

end BulkProvision
