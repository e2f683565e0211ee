import BulkProvision.CommandLine

/-!
# The program

Collects the arguments, the environment and the files that a run may look into, and prints what the
run comes to.  There is no transport to a cluster here, so a run that is not dry finds it out of
reach.
-/

namespace BulkProvision

namespace CommandLine

/-- The variables among the settings of a process, each ended by a NUL. -/
def environmentOf (text : String) : Environment :=
  NameMap.ofList ((Text.splitString '\x00' text).filterMap fun setting =>
    (Text.splitAt? ['='] setting.toList).map fun (name, value) =>
      (String.ofList name, String.ofList value))

/-- What there is at a path. -/
def readEntry (path : String) : IO (Option FileEntry) := do
  try
    match String.fromUTF8? (← IO.FS.readBinFile path) with
    | some content => pure (some (.text content))
    | none => pure (some .undecodable)
  catch _ => pure none

/-- Adds what there is at some paths to a tree. -/
def readInto (files : FileTree) : List String → IO FileTree
  | [] => pure files
  | path :: rest => do
    match ← readEntry path with
    | some entry => readInto (files.write path entry) rest
    | none => readInto files rest

/-- The files that the address of the cluster names. -/
def addressFiles (settings : Settings) : List String :=
  match Remote.ConnectionString.ofText? settings.store.uri with
  | some address => address.trustFile?.toList ++ address.keyFile?.toList
  | none => []

/-- The files a run may look into: those of its configuration, then those that its settings
name. -/
def readFiles (env : Environment) : IO FileTree := do
  let files ← readInto .empty (Config.layerFiles "." (Config.environmentName env))
  match settingsOf env files with
  | .ok settings =>
    readInto files
      ((Catalog.ofSettings env settings).map (·.sourcePath) ++ addressFiles settings)
  | .error _ => pure files

end CommandLine

end BulkProvision

open BulkProvision CommandLine in
/-- Runs the program. -/
def main (arguments : List String) : IO UInt32 := do
  let process ← IO.FS.readBinFile "/proc/self/environ"
  let env := environmentOf ((String.fromUTF8? process).getD "")
  let files ← readFiles env
  let output := (CommandLine.run Remote.outOfReach arguments env files ()).1
  (← IO.getStdout).putStr output.stdout
  (← IO.getStderr).putStr output.stderr
  pure output.exitCode.toUInt32
