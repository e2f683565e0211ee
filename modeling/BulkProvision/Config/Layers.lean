import BulkProvision.Config.Variable
import BulkProvision.Path.Files
import BulkProvision.Toml.Reader

/-!
# Configuration layers

The configuration of a run has three layers, the later one over the earlier: the file
`config.toml`, the file of the run's environment (`config.dev.toml`, `config.prod.toml` or
`config.test.toml`), and the environment variables.  A file that is not there is an empty layer; a
file that cannot be read makes the whole configuration unreadable.

A file is looked up in one directory, by the path that the directory and its name make.  Where that
path is relative, the directories above the working directory are not searched: it is assumed that
no file of these names stands in one of them while there is none at the path itself.
-/

namespace BulkProvision

namespace Config

/-- The variable that names the environment of a run. -/
def environmentVariable : String := "RUST_ENV"

/-- The environment of a run that names none. -/
def standardEnvironment : String := "dev"

/-- The name of the environment of a run. -/
def environmentName (env : Environment) : String :=
  (env.get? environmentVariable).getD standardEnvironment

/-- The file that goes with an environment, where it has one. -/
def environmentFile? (name : String) : Option String :=
  if name = "dev" ∨ name = "development" then some "config.dev.toml"
  else if name = "prod" ∨ name = "production" then some "config.prod.toml"
  else if name = "test" ∨ name = "testing" then some "config.test.toml"
  else none

/-- The layer that the text of a file holds: every value unwrapped, but not the layer itself. -/
def layerOfText? (content : String) : Option Value :=
  match Toml.ofText? content with
  | some (.table entries) => (Value.unwrapEntries? entries).map .table
  | _ => none

/-- The layer of the file at a path, and at no other; nothing when there is a file that cannot be
read. -/
def fileLayer (files : FileTree) (path : String) : Option Value :=
  match files.find? path with
  | some (.text content) => layerOfText? content
  | some .undecodable => none
  | _ => some (.table [])

/-- The files of the configuration, lowest first. -/
def layerFiles (dir name : String) : List String :=
  Path.join dir "config.toml" :: ((environmentFile? name).map (Path.join dir)).toList

/-- The configuration in a directory, for an environment of that name; nothing when it cannot be
read. -/
def load (files : FileTree) (env : Environment) (dir name : String) : Option Value := do
  let layers ← (layerFiles dir name).mapM (fileLayer files)
  pure ((layers ++ [Variable.layer env]).foldl Value.merge (.table []))

end Config

end BulkProvision
