/-!
# Readers

A reader takes what it needs from the front of a text and leaves the rest, or fails.  Failure
leaves nothing behind, so `<|>` tries the second reader on the same text.

A repetition has as many rounds as there are characters left when it starts; a round that
succeeds takes at least one character in every use, so the bound is never what ends it.
-/

namespace BulkProvision

namespace Text

/-- Takes a value from the front of a text. -/
abbrev Reader := StateT (List Char) Option

namespace Reader

variable {α β : Type}

/-- The next character, not taken. -/
def peek : Reader (Option Char) := fun s => some (s.head?, s)

/-- The next character. -/
def next : Reader Char
  | [] => none
  | c :: rest => some (c, rest)

/-- The next character, if it has the property. -/
def satisfy (p : Char → Bool) : Reader Char
  | [] => none
  | c :: rest => if p c then some (c, rest) else none

/-- The next character, which has to be the given one. -/
def char (c : Char) : Reader Unit := do
  let _ ← satisfy (· == c)

/-- The next characters, which have to be the given ones. -/
def literal : List Char → Reader Unit
  | [] => pure ()
  | c :: rest => do
    char c
    literal rest

/-- The longest run of characters with the property, perhaps empty. -/
def takeWhile (p : Char → Bool) : Reader (List Char) := fun s =>
  some (s.takeWhile p, s.dropWhile p)

/-- The longest run of characters with the property, not empty. -/
def takeSome (p : Char → Bool) : Reader (List Char) := do
  let run ← takeWhile p
  if run.isEmpty then failure else pure run

/-- Drops the longest run of characters with the property. -/
def skipWhile (p : Char → Bool) : Reader Unit := do
  let _ ← takeWhile p

/-- Whether the text starts with these characters; they are taken if so. -/
def skips (cs : List Char) : Reader Bool := (do literal cs; pure true) <|> pure false

/-- Whether the next character is this one; it is taken if so. -/
def skipsChar (c : Char) : Reader Bool := skips [c]

/-- Number of characters left. -/
def remaining : Reader Nat := fun s => some (s.length, s)

/-- Succeeds at the end of the text only. -/
def atEnd : Reader Unit
  | [] => some ((), [])
  | _ :: _ => none

/-- Repeats a reader until it fails, at most `rounds` times. -/
def many (item : Reader α) : Nat → Reader (List α)
  | 0 => pure []
  | rounds + 1 => (do
      let first ← item
      let rest ← many item rounds
      pure (first :: rest)) <|> pure []

/-- Items with a separator between each two, at least one item; at most `rounds + 1` of them. -/
def separated (item : Reader α) (separator : Reader Bool) : Nat → Reader (List α)
  | 0 => do
    let first ← item
    pure [first]
  | rounds + 1 => do
    let first ← item
    if ← separator then
      let rest ← separated item separator rounds
      pure (first :: rest)
    else pure [first]

/-- Reads a whole text. -/
def readAll (reader : Reader α) (s : List Char) : Option α :=
  match reader s with
  | some (value, []) => some value
  | _ => none

end Reader

end Text

end BulkProvision
