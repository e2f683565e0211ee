import BulkProvision.Numeral
import BulkProvision.Text.Reader
import BulkProvision.Toml.Moment
import BulkProvision.Toml.Tree
import BulkProvision.Width

/-!
# Reading TOML

The grammar of TOML 1.0.  A date or a time is kept as a table that holds its text under one key,
`momentKey`.
-/

namespace BulkProvision

open Text Text.Reader

namespace Toml

/-- How deep values may be nested, and how many parts a dotted key may have. -/
def depthLimit : Nat := 79

/-! ### Characters -/

/-- Spaces and tabs. -/
def isSpace (c : Char) : Bool := c == ' ' || c == '\t'

/-- Drops spaces and tabs. -/
def skipSpace : Reader Unit := skipWhile isSpace

/-- What may stand in a comment and, quotes and backslashes aside, in a string: a tab, and
everything that is no control character of ASCII text. -/
def isPlain (c : Char) : Bool := c == '\t' || (0x20 ≤ c.toNat && c.toNat ≠ 0x7F)

/-- What a bare key is made of. -/
def isKeyChar (c : Char) : Bool :=
  ('a' ≤ c && c ≤ 'z') || ('A' ≤ c && c ≤ 'Z') || ('0' ≤ c && c ≤ '9') || c == '_' || c == '-'

/-- A line feed, with or without a carriage return before it. -/
def newline : Reader Unit := char '\n' <|> literal ['\r', '\n']

/-- A comment, up to the end of the line. -/
def comment : Reader Unit := do
  char '#'
  skipWhile isPlain

/-- A comment, if there is one. -/
def skipComment : Reader Unit := comment <|> pure ()

/-- A blank, a line end or a comment. -/
def filler : Reader Unit := (do let _ ← satisfy isSpace) <|> newline <|> comment

/-- Drops blanks, line ends and comments. -/
def skipFiller : Reader Unit := do
  let _ ← many filler (← remaining)

/-! ### Strings -/

/-- The character of that many hexadecimal digits. -/
def codeChar (digits : Nat) : Reader Char := do
  let ds ← List.replicate digits (satisfy (isDigit 16)) |>.mapM id
  StateT.lift (charOfCode? (ofDigits 16 ds))

/-- What follows a backslash. -/
def escaped : Reader Char := do
  match ← next with
  | 'b' => pure '\x08'
  | 't' => pure '\t'
  | 'n' => pure '\n'
  | 'f' => pure '\x0c'
  | 'r' => pure '\r'
  | '"' => pure '"'
  | '\\' => pure '\\'
  | 'u' => codeChar 4
  | 'U' => codeChar 8
  | _ => failure

/-- A character of a string on one line. -/
def basicChar : Reader Char := do
  let c ← satisfy fun c => isPlain c && c ≠ '"'
  if c = '\\' then escaped else pure c

/-- A string on one line. -/
def basicString : Reader (List Char) := do
  char '"'
  let body ← many basicChar (← remaining)
  char '"'
  pure body

/-- A string on one line without escapes. -/
def literalString : Reader (List Char) := do
  char '\''
  let body ← takeWhile fun c => isPlain c && c ≠ '\''
  char '\''
  pure body

/-- A backslash at the end of a line, and all blanks and line ends after it. -/
def lineContinuation : Reader (List Char) := do
  char '\\'
  skipSpace
  newline
  let _ ← many ((do let _ ← satisfy isSpace) <|> newline) (← remaining)
  pure []

/-- One or two quotes that do not close a string over several lines. -/
def innerQuotes (quote : Char) : Reader (List Char) := fun s =>
  let run := s.takeWhile (· == quote)
  if run.length = 0 ∨ 3 ≤ run.length then none else some (run, s.dropWhile (· == quote))

/-- The closing quotes of a string over several lines; up to two more belong to the string. -/
def closingQuotes (quote : Char) : Reader (List Char) := fun s =>
  let run := s.takeWhile (· == quote)
  if 3 ≤ run.length ∧ run.length ≤ 5 then some (run.drop 3, s.dropWhile (· == quote)) else none

/-- A part of a string over several lines. -/
def multilineBasicPart : Reader (List Char) :=
  innerQuotes '"' <|> lineContinuation <|>
    (do newline; pure ['\n']) <|>
    (do let c ← basicChar; pure [c])

/-- A part of a string over several lines without escapes. -/
def multilineLiteralPart : Reader (List Char) :=
  innerQuotes '\'' <|> (do newline; pure ['\n']) <|>
    (do let c ← satisfy fun c => isPlain c && c ≠ '\''; pure [c])

/-- A string over several lines; a line end right after the opening quotes is dropped. -/
def multilineString (quote : Char) (part : Reader (List Char)) : Reader (List Char) := do
  literal [quote, quote, quote]
  newline <|> pure ()
  let parts ← many part (← remaining)
  let tail ← closingQuotes quote
  pure (parts.flatten ++ tail)

/-- Any string. -/
def string : Reader String :=
  String.ofList <$>
    (multilineString '"' multilineBasicPart <|> basicString <|>
      multilineString '\'' multilineLiteralPart <|> literalString)

/-! ### Keys -/

/-- One part of a key. -/
def keyPart : Reader String :=
  (do let cs ← takeSome isKeyChar; pure (String.ofList cs)) <|>
    (String.ofList <$> (basicString <|> literalString))

/-- Whether a dot comes next, blanks around it; it is taken if so. -/
def dot : Reader Bool :=
  (do skipSpace; char '.'; skipSpace; pure true) <|> pure false

/-- A dotted key. -/
def key : Reader (List String) := do
  let parts ← separated keyPart dot (← remaining)
  if depthLimit < parts.length then failure else pure parts

/-! ### Numbers and dates -/

/-- Digits with single underscores between them, without the underscores. -/
def digitRun (p : Char → Bool) : Reader (List Char) := do
  let first ← satisfy p
  let rest ← many ((satisfy p) <|> (do char '_'; satisfy p)) (← remaining)
  pure (first :: rest)

/-- A sign, if there is one. -/
def sign : Reader (Option Char) :=
  (do let c ← satisfy fun c => c == '+' || c == '-'; pure (some c)) <|> pure none

/-- Decimal digits without a superfluous zero in front. -/
def wholeDigits : Reader (List Char) := do
  if (← peek) = some '0' then
    char '0'
    pure ['0']
  else digitRun isDecimal

/-- Digits of another radix after its letter. -/
def radixInteger (letter : Char) (radix : Nat) : Reader Int := do
  literal ['0', letter]
  let digits ← digitRun (isDigit radix)
  pure (ofDigits radix digits)

/-- A decimal integer. -/
def decimalInteger : Reader Int := do
  let s ← sign
  let digits ← wholeDigits
  let magnitude : Int := ofDigits 10 digits
  pure (if s = some '-' then -magnitude else magnitude)

/-- An integer of 64 bits. -/
def integer : Reader Config.Value := do
  let n ← radixInteger 'x' 16 <|> radixInteger 'o' 8 <|> radixInteger 'b' 2 <|> decimalInteger
  if Width.Signed 64 n then pure (.integer n) else failure

/-- The exponent of a number with a point or an exponent. -/
def exponent : Reader Exponent := do
  let letter ← satisfy fun c => c == 'e' || c == 'E'
  let s ← sign
  let digits ← digitRun isDecimal
  pure ⟨letter, s, digits⟩

/-- A number with a point, an exponent or both; too large a positive number is refused. -/
def decimalReal : Reader Config.Value := do
  let s ← sign
  let whole ← wholeDigits
  let fraction ← (do char '.'; some <$> digitRun isDecimal) <|> pure none
  let e ← (some <$> exponent) <|> pure none
  if fraction.isNone ∧ e.isNone then failure
  let value := (Numeral.mk s whole fraction e).value
  if value = Binary64.infinity false then failure else pure (.real value)

/-- An infinity or a NaN. -/
def specialReal : Reader Config.Value := do
  let s ← sign
  (do literal ['i', 'n', 'f']; pure (.real (Binary64.infinity (s = some '-')))) <|>
    (do literal ['n', 'a', 'n']; pure (.real .nan))

/-- That many digits, as a number within bounds. -/
def bounded (digits low high : Nat) : Reader Nat := do
  let ds ← List.replicate digits (satisfy isDecimal) |>.mapM id
  let n := ofDigits 10 ds
  if low ≤ n ∧ n ≤ high then pure n else failure

/-- A day of the calendar. -/
def day : Reader Day := do
  let year ← bounded 4 0 9999
  char '-'
  let month ← bounded 2 1 12
  char '-'
  let day ← bounded 2 1 (daysIn year month)
  pure ⟨year, month, day⟩

/-- A time of day. -/
def clock : Reader Clock := do
  let hour ← bounded 2 0 23
  char ':'
  let minute ← bounded 2 0 59
  char ':'
  let second ← bounded 2 0 60
  let fraction ← (do char '.'; takeSome isDecimal) <|> pure []
  pure ⟨hour, minute, second, nanoseconds fraction⟩

/-- The distance from universal time. -/
def offset : Reader Offset :=
  (do
    let _ ← satisfy fun c => c == 'Z' || c == 'z'
    pure .universal) <|> (do
    let sign ← satisfy fun c => c == '+' || c == '-'
    let hours ← bounded 2 0 23
    char ':'
    let minutes ← bounded 2 0 59
    let count : Int := (hours * 60 + minutes : Nat)
    pure (.minutes (if sign = '-' then -count else count)))

/-- The time of day and the distance after a day. -/
def clockOf (day : Day) : Reader Moment := do
  let _ ← satisfy fun c => c == 'T' || c == 't' || c == ' '
  let clock ← clock
  let offset ← (some <$> offset) <|> pure none
  pure (.both day clock offset)

/-- A day, a time of day, or both. -/
def moment : Reader Moment :=
  (do
    let day ← day
    clockOf day <|> pure (.day day)) <|> (do
    let clock ← clock
    pure (.clock clock))

/-- The key under which a table holds the text of a date or a time. -/
def momentKey : String := "$__toml_private_datetime"

/-- A date or a time as configuration. -/
def momentValue : Reader Config.Value := do
  let m ← moment
  pure (.table [(momentKey, .text m.text)])

/-! ### Values -/

/-- The items of an array after its opening bracket; a comma may follow the last item. -/
def arrayItems (item : Reader Config.Value) : Nat → Reader (List Config.Value)
  | 0 => failure
  | rounds + 1 => do
    skipFiller
    if ← skipsChar ']' then pure []
    else
      let v ← item
      skipFiller
      if ← skipsChar ',' then (v :: ·) <$> arrayItems item rounds
      else
        char ']'
        pure [v]

/-- A key, an equals sign and a value. -/
def assignment (value : Reader Config.Value) : Reader (List String × Config.Value) := do
  let path ← key
  skipSpace
  char '='
  skipSpace
  let v ← value
  pure (path, v)

/-- Whether a comma comes next, after blanks; it is taken if so. -/
def inlineComma : Reader Bool := (do skipSpace; char ','; pure true) <|> pure false

/-- The table of an inline table after its opening brace. -/
def inlineTable (value : Reader Config.Value) : Reader Config.Value := do
  skipSpace
  if ← skipsChar '\x7d' then pure (.table [])
  else
    let pairs ← separated (do skipSpace; assignment value) inlineComma (← remaining)
    skipSpace
    char '\x7d'
    StateT.lift (valueOf? (pairs.map fun (path, v) => .assign path v))

/-- A value whose items are read by the inner reader, where there is one. -/
def valueWith (inner : Option (Reader Config.Value)) : Reader Config.Value := do
  match ← peek with
  | some '"' => .text <$> string
  | some '\'' => .text <$> string
  | some '[' =>
    let item ← StateT.lift inner
    char '['
    .list <$> arrayItems item (← remaining)
  | some '\x7b' =>
    let item ← StateT.lift inner
    char '\x7b'
    inlineTable item
  | some 't' => literal ['t', 'r', 'u', 'e']; pure (.bool true)
  | some 'f' => literal ['f', 'a', 'l', 's', 'e']; pure (.bool false)
  | _ => momentValue <|> decimalReal <|> specialReal <|> integer

/-- A value with at most `depth` arrays and inline tables around one another. -/
def value : (depth : Nat) → Reader Config.Value
  | 0 => valueWith none
  | depth + 1 => valueWith (some (value depth))

/-! ### Documents -/

/-- A header. -/
def header : Reader Statement :=
  (do
    literal ['[', '[']
    skipSpace
    let path ← key
    skipSpace
    literal [']', ']']
    pure (.openRow path)) <|> (do
    char '['
    skipSpace
    let path ← key
    skipSpace
    char ']'
    pure (.openTable path))

/-- The statement of a line, if there is one. -/
def statement : Reader (Option Statement) := do
  match ← peek with
  | none => pure none
  | some '#' => pure none
  | some '\n' => pure none
  | some '\r' => pure none
  | some '[' => some <$> header
  | some _ =>
    let (path, v) ← assignment (value depthLimit)
    pure (some (.assign path v))

/-- A line without its end. -/
def line : Reader (Option Statement) := do
  skipSpace
  let s ← statement
  skipSpace
  skipComment
  pure s

/-- Whether a line end comes next; it is taken if so. -/
def lineEnd : Reader Bool := (do newline; pure true) <|> pure false

/-- The statements of a document; a byte order mark in front is dropped. -/
def document : Reader (List Statement) := do
  char '\uFEFF' <|> pure ()
  let lines ← separated line lineEnd (← remaining)
  atEnd
  pure (lines.filterMap id)

/-- Reads a TOML text; nothing when it is not well formed. -/
def ofText? (s : String) : Option Config.Value :=
  (readAll document s.toList).bind valueOf?

end Toml

end BulkProvision
