import BulkProvision.Text.Percent
import BulkProvision.Width

/-!
# Hosts

Where the servers of a cluster listen, and how that is written in an address: a name or a number,
with a port or without, or the file of a socket.
-/

namespace BulkProvision

namespace Remote

open Text

/-- Where a server of the cluster listens. -/
inductive Host where
  | tcp (name : String) (port : Option Nat)
  | socket (path : String)
  deriving DecidableEq

namespace Host

/-- Whether a text is a group of a version 6 address. -/
def isGroup (s : List Char) : Bool := !s.isEmpty && s.length ≤ 4 && s.all (isDigit 16)

/-- Whether a text is a version 4 address: four numbers up to 255 without leading zeros. -/
def isVersion4 (s : List Char) : Bool :=
  let parts := splitOn '.' s
  parts.length = 4 && parts.all fun part =>
    !part.isEmpty && part.length ≤ 3 && part.all isDecimal && ofDigits 10 part ≤ 255 &&
      (part.head? != some '0' || part.length == 1)

/-- How many groups a run of groups makes, the last of which may be a version 4 address and make
two; nothing when it is no such run. -/
def groupCount? (s : List Char) : Option Nat :=
  if s.isEmpty then some 0
  else
    let parts := splitOn ':' s
    let last := parts.getLast?.getD []
    if !parts.dropLast.all isGroup then none
    else if isGroup last then some parts.length
    else if isVersion4 last then some (parts.length + 1)
    else none

/-- Whether a text is a version 6 address: eight groups, or fewer with one gap. -/
def isVersion6 (s : List Char) : Bool :=
  match splitAt? [':', ':'] s with
  | none => groupCount? s == some 8
  | some (before, after) =>
    before.all (· != '.') &&
      match groupCount? before, groupCount? after with
      | some m, some n => m + n ≤ 7
      | _, _ => false

/-- A port. -/
def port? (s : List Char) : Option Nat := (Width.natural? 16 s).filter (0 < ·)

/-- A host after its opening bracket. -/
def bracketed? (s : List Char) : Option Host := do
  let (name, after) ← splitAt? [']'] s
  if !isVersion6 name then failure
  match after with
  | [] => pure (.tcp (String.ofList name) none)
  | ':' :: port => pure (.tcp (String.ofList name) (some (← port? port)))
  | _ => failure

/-- How files that stand for a socket end. -/
def socketEnding : List Char := ".sock".toList

/-- A host: a socket, which is percent-encoded, an address between brackets, or a name, the latter
two with a port or without. -/
def ofText? (s : List Char) : Option Host :=
  if (dropStart? socketEnding.reverse s.reverse).isSome then (percentDecode? s).map .socket
  else
    match s with
    | '[' :: rest => bracketed? rest
    | _ =>
      match splitAt? [':'] s with
      | none => if s.isEmpty then none else some (.tcp (String.ofList s) none)
      | some (name, port) =>
        if name.isEmpty then none
        else (port? port).map fun p => .tcp (String.ofList name) (some p)

end Host

end Remote

end BulkProvision
