import BulkProvision.Config.Value
import BulkProvision.Numeral
import BulkProvision.Path.Expand
import BulkProvision.Text.Blank
import BulkProvision.Text.Reader
import BulkProvision.Width

/-!
# Configuration in environment variables

A variable whose name starts with `APP_`, in any case, holds a configuration value: the rest of the
name is the key, with two underscores or a dot between its parts, and the text of the variable is
read by a small grammar (`Variable.ofText`).  What the grammar does not cover is a plain text, so
every variable has a value.

Names are compared without case and read without the blanks around them, so that several variables
may name one key.  These are taken in ascending order of name (`Variable.layer`).  A process holds
its variables in an order of its own, which an `Environment` does not keep; it is assumed that no
two variables name one key, or that the process holds them in ascending order.
-/

namespace BulkProvision

open Text Text.Reader

namespace Config

namespace Variable

/-! ### Values -/

/-- Drops the blanks of ASCII text. -/
def skipSpace : Reader Unit := skipWhile isAsciiBlank

/-- What ends a plain value. -/
def isSeparator (c : Char) : Bool :=
  c == ',' || c == '\x7b' || c == '\x7d' || c == '[' || c == ']'

/-- What a bare key is made of. -/
def isKeyChar (c : Char) : Bool :=
  ('a' ≤ c && c ≤ 'z') || ('A' ≤ c && c ≤ 'Z') || ('0' ≤ c && c ≤ '9') || c == '_' || c == '-'

/-- Undoes the escapes of a quoted text; nothing when one of them stands for no character. -/
def unescape : Reader Char := do
  let c ← next
  if c = '\\' then
    match ← next with
    | '"' => pure '"'
    | '\\' => pure '\\'
    | 'b' => pure '\x08'
    | 'f' => pure '\x0c'
    | 'n' => pure '\n'
    | 'r' => pure '\r'
    | 't' => pure '\t'
    | 'u' => code 4
    | 'U' => code 8
    | _ => failure
  else if c = '\t' ∨ (0x20 ≤ c.toNat ∧ c.toNat ≠ 0x7F) then pure c
  else failure
where
  /-- The character of that many hexadecimal digits. -/
  code (digits : Nat) : Reader Char := do
    let ds ← List.replicate digits (satisfy (isDigit 16)) |>.mapM id
    StateT.lift (charOfCode? (ofDigits 16 ds))

/-- A text between double quotes. -/
def quoted : Reader String := do
  char '"'
  let body ← many (do
    let c ← peek
    if c = some '"' then failure else unescape) (← remaining)
  char '"'
  pure (String.ofList body)

/-- A plain text as a value: a number with a point, an integer of 64 bits with a sign or without
one, or the text itself. -/
def ofPlain (s : List Char) : Value :=
  match if s.contains '.' then Numeral.ofText? s else none with
  | some numeral => .real numeral.value
  | none =>
    match readInt? s with
    | some n =>
      if Width.Signed 64 n ∨ Width.Unsigned 64 n then .integer n else .text (String.ofList s)
    | none => .text (String.ofList s)

/-- Items with commas between them, up to a closing character; a comma may follow the last one. -/
def items {α : Type} (item : Reader α) (close : Char) : Nat → Reader (List α)
  | 0 => failure
  | rounds + 1 => do
    if ← skipsChar close then pure []
    else
      let first ← item
      if ← skipsChar ',' then (first :: ·) <$> items item close rounds
      else
        char close
        pure [first]

/-- A key, an equals sign and a value. -/
def entry (value : Reader Value) : Reader (String × Value) := do
  skipSpace
  let key ← quoted <|> (String.ofList <$> takeSome isKeyChar)
  skipSpace
  char '='
  skipSpace
  let v ← value
  skipSpace
  pure (key, v)

/-- A value whose items are read by the inner reader, where there is one. -/
def valueWith (inner : Option (Reader Value)) : Reader Value := do
  skipSpace
  let v ← word
  skipSpace
  pure v
where
  /-- The value without the blanks around it. -/
  word : Reader Value := do
    if ← skips ['t', 'r', 'u', 'e'] then pure (.bool true)
    else if ← skips ['f', 'a', 'l', 's', 'e'] then pure (.bool false)
    else
      match ← peek with
      | some '\x7b' =>
        let item ← StateT.lift inner
        char '\x7b'
        let entries ← items (entry item) '\x7d' (← remaining)
        pure (.table (entries.foldl (fun es e => Value.setEntry e.1 e.2 es) []))
      | some '[' =>
        let item ← StateT.lift inner
        char '['
        .list <$> items item ']' (← remaining)
      | some '"' => .text <$> quoted
      | some '\'' =>
        char '\''
        let c ← next
        char '\''
        pure (.text (String.ofList [c]))
      | _ => do
        let plain ← takeWhile fun c => !isSeparator c
        pure (ofPlain (trim plain))

/-- A value with at most `depth` lists and tables around one another. -/
def value : (depth : Nat) → Reader Value
  | 0 => valueWith none
  | depth + 1 => valueWith (some (value depth))

/-- The value that the text of a variable stands for. -/
def ofText (s : String) : Value := (readAll (value s.length) s.toList).getD (.text s)

/-! ### Names -/

/-- The letter of a capital of ASCII text; every other character as it is. -/
def lower (c : Char) : Char := if 'A' ≤ c ∧ c ≤ 'Z' then Char.ofNat (c.toNat + 32) else c

/-- Replaces two underscores by a dot. -/
def dotted : List Char → List Char
  | '_' :: '_' :: rest => '.' :: dotted rest
  | c :: rest => c :: dotted rest
  | [] => []

/-- The key a variable sets, if it is one of configuration; a name with an empty part is not. -/
def key? (name : String) : Option (List String) :=
  match dropStart? ['a', 'p', 'p', '_'] ((trim name.toList).map lower) with
  | none => none
  | some rest =>
    let parts := splitOn '.' (trim (dotted rest))
    if parts.any (·.isEmpty) then none else some (parts.map String.ofList)

/-- The configuration that an environment holds; of two variables for one key the one whose name
comes later counts. -/
def layer (env : Environment) : Value :=
  env.entries.foldl (fun v e =>
    match key? e.1 with
    | some path => v.merge ((ofText e.2).nest path)
    | none => v) (.table [])

end Variable

end Config

end BulkProvision
