import BulkProvision.NameMap
import BulkProvision.Path.Files
import BulkProvision.Text.Word

/-!
# Path expansion

A configured path may refer to variables and to the home directory.  `$name`, `${name}` and
`${name:-default}` stand for the value of a variable, `$$` for a dollar sign; a bare name is a run
of word characters.  Variables are all or nothing: when one that has no default is undefined, the
text keeps every reference (`Path.substitute`).  Values are not read for references again.  Then a
`~` that stands alone or before a slash becomes the home directory (`Path.expandHome`).

The home directory is the value of the variable `HOME`.  Where that is not there or empty, the text
keeps its `~`: no user database is asked for the home directory, and a run is assumed to have the
variable.
-/

namespace BulkProvision

open Text

/-- The environment variables of a run, each name once, in ascending order of name. -/
abbrev Environment := NameMap String

namespace Path

/-- A piece of a text with references. -/
inductive Piece where
  | text (s : List Char)
  | reference (name : List Char) (fallback : Option (List Char))
  deriving DecidableEq

/-- The piece of what stands between braces.  The default follows the first `:-`, unless nothing
stands before it. -/
def bracedPiece (inner : List Char) : Piece :=
  match splitAt? [':', '-'] inner with
  | some (c :: name, fallback) => .reference (c :: name) (some fallback)
  | _ => .reference inner none

/-- The piece after a dollar sign, and the text after it.  A dollar sign before anything but a
name, a closed brace or another dollar sign stands for itself. -/
def pieceAfterDollar : List Char → Piece × List Char
  | [] => (.text ['$'], [])
  | c :: rest =>
    if c = '\x7b' then
      match splitAt? ['\x7d'] rest with
      | some (inner, after) => (bracedPiece inner, after)
      | none => (.text ['$', c], rest)
    else if isWordChar c then
      (.reference (c :: rest.takeWhile isWordChar) none, rest.dropWhile isWordChar)
    else if c = '$' then (.text ['$'], rest)
    else (.text ['$'], c :: rest)

theorem length_dropWhile_le (p : Char → Bool) (s : List Char) :
    (s.dropWhile p).length ≤ s.length := (List.dropWhile_sublist p).length_le

theorem length_pieceAfterDollar_le (s : List Char) : (pieceAfterDollar s).2.length ≤ s.length := by
  cases s with
  | nil => simp [pieceAfterDollar]
  | cons c rest =>
    simp only [pieceAfterDollar]
    split
    · split
      · next inner after h =>
        have := congrArg List.length (append_of_splitAt? h)
        simp only [List.length_append, List.length_cons, List.length_nil] at this ⊢
        omega
      · simp
    · split
      · exact Nat.le_succ_of_le (length_dropWhile_le _ _)
      · split <;> simp

/-- The pieces of a text, in order. -/
def pieces (s : List Char) : List Piece :=
  match s with
  | [] => []
  | c :: rest =>
    if c = '$' then
      (pieceAfterDollar rest).1 :: pieces (pieceAfterDollar rest).2
    else .text [c] :: pieces rest
  termination_by s.length
  decreasing_by
    · exact Nat.lt_succ_of_le (length_pieceAfterDollar_le rest)
    · simp

/-- What a name stands for.  The environment is written `variable=value`, so that a name with an
equals sign in it reaches into a value: it stands for what follows it and a further equals sign. -/
def valueOf? (env : Environment) (name : List Char) : Option (List Char) :=
  match splitAt? ['='] name with
  | none => (env.get? (String.ofList name)).map (·.toList)
  | some (outer, start) =>
    (env.get? (String.ofList outer)).bind fun value => dropStart? (start ++ ['=']) value.toList

/-- What a piece stands for; nothing for an undefined variable without default. -/
def Piece.value? (env : Environment) : Piece → Option (List Char)
  | .text s => some s
  | .reference name fallback =>
    match valueOf? env name with
    | some value => some value
    | none => fallback

/-- Replaces every reference; nothing when one cannot be. -/
def substitute (env : Environment) (s : List Char) : Option (List Char) :=
  ((pieces s).mapM (Piece.value? env)).map List.flatten

/-- Replaces a `~` that stands alone or before a slash by the value of `HOME`; without that value,
or with an empty one, the text is left as it is. -/
def expandHome (env : Environment) : List Char → List Char
  | '~' :: rest =>
    if rest = [] ∨ rest.head? = some '/' then
      match env.get? "HOME" with
      | some home => if home = "" then '~' :: rest else home.toList ++ rest
      | none => '~' :: rest
    else '~' :: rest
  | s => s

/-- Expands a path: variables first, the home directory last. -/
def expand (env : Environment) (path : String) : String :=
  String.ofList (expandHome env ((substitute env path.toList).getD path.toList))

/-- A path below a directory: a slash between them unless the directory ends in one or is empty. -/
def join (base path : String) : String :=
  if base = "" ∨ base.toList.getLast? = some '/' then base ++ path else base ++ "/" ++ path

/-- A path expanded, and taken below the base directory unless it is absolute. -/
def resolve (env : Environment) (base path : String) : String :=
  let expanded := expand env path
  if FileTree.isAbsolute expanded then expanded else join base expanded

end Path

end BulkProvision
