import BulkProvision.Text.Split

/-!
# File trees

What the files of a run hold, as a value.  A `FileTree` is looked into by paths: `.` and empty
components stay where they are, `..` goes up, and only a directory can be gone through.  Relative
paths start at the working directory; what lies outside of it is in the tree only under absolute
paths.
-/

namespace BulkProvision

/-- What there is at a place. -/
inductive FileEntry where
  | text (content : String)
  /-- A file that is no UTF-8 text. -/
  | undecodable
  | directory
  deriving DecidableEq

/-- The names leading to a place, from the working directory, or from the root if the first is
`/`. -/
abbrev Place := List String

/-- Files and directories by place. -/
structure FileTree where
  entries : List (Place × FileEntry)

namespace FileTree

/-- The tree of an empty working directory. -/
def empty : FileTree := ⟨[]⟩

/-- The place where absolute paths start. -/
def root : Place := ["/"]

/-- What there is at a place; both starting places are directories. -/
def entryAt? (t : FileTree) (place : Place) : Option FileEntry :=
  if place = [] ∨ place = root then some .directory
  else (t.entries.find? (·.1 = place)).map (·.2)

/-- The directory that holds a place.  The root holds itself; what holds the working directory is
not known. -/
def parent? (place : Place) : Option Place :=
  if place = root then some root else if place = [] then none else some place.dropLast

/-- Follows components from a place. -/
def walk (t : FileTree) (place : Place) : List String → Option FileEntry
  | [] => t.entryAt? place
  | name :: rest =>
    if t.entryAt? place ≠ some .directory then none
    else if name = "" ∨ name = "." then walk t place rest
    else if name = ".." then
      match parent? place with
      | none => none
      | some above => walk t above rest
    else walk t (place ++ [name]) rest

/-- Whether a path is absolute. -/
def isAbsolute (path : String) : Bool := path.toList.head? = some '/'

/-- What a path leads to. -/
def find? (t : FileTree) (path : String) : Option FileEntry :=
  if path = "" then none
  else t.walk (if isAbsolute path then root else []) (Text.splitString '/' path)

/-- Whether a path leads to a file. -/
def isFile (t : FileTree) (path : String) : Bool :=
  match t.find? path with
  | some (.text _) => true
  | some .undecodable => true
  | _ => false

/-! ### Building trees -/

/-- Puts an entry at a place, in place of any other. -/
def setEntry (t : FileTree) (place : Place) (entry : FileEntry) : FileTree :=
  ⟨(place, entry) :: t.entries.filter (·.1 ≠ place)⟩

/-- The place a path names, and the directories passed on the way, the last one last. -/
def placesOf (path : String) : Place × List Place :=
  (Text.splitString '/' path).foldl
    (fun (place, passed) name =>
      if name = "" ∨ name = "." then (place, passed)
      else if name = ".." then ((parent? place).getD place, passed ++ [place])
      else (place ++ [name], passed ++ [place]))
    (if isAbsolute path then root else [], [])

/-- Puts an entry at a path and makes the directories leading there. -/
def write (t : FileTree) (path : String) (entry : FileEntry) : FileTree :=
  let places := placesOf path
  (places.2.foldl (fun t d => t.setEntry d .directory) t).setEntry places.1 entry

/-- Removes what a path names. -/
def remove (t : FileTree) (path : String) : FileTree :=
  ⟨t.entries.filter (·.1 ≠ (placesOf path).1)⟩

end FileTree

end BulkProvision
