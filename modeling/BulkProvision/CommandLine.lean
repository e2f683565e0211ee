import BulkProvision.Analytics.Run
import BulkProvision.Bootstrap
import BulkProvision.Config.Layers
import BulkProvision.Provision
import BulkProvision.Settings.Decode
import BulkProvision.Store.Memory
import BulkProvision.Verify

/-!
# The command line

What the program does with its arguments, its environment and its files, up to its exit code and
what it prints (`CommandLine.run`).  A dry run works on a fresh store in memory, which its phases
share; every other run works on a cluster.

A configuration that cannot be used is found first (exit code 1), then a command that does not
exist (exit code 2), then whatever stops the run (exit code 1).
-/

namespace BulkProvision

namespace CommandLine

open Store

/-! ### Arguments -/

/-- What to do. -/
inductive Command where
  | bootstrap
  | provision
  | verify
  /-- Bootstrap, provision and verify. -/
  | all
  /-- The report of that name, or all of them. -/
  | report (name : Option String)
  deriving DecidableEq

/-- What the arguments ask for. -/
structure Invocation where
  command : Command
  dryRun : Bool
  deriving DecidableEq

/-- Whether an argument asks for a dry run. -/
def isDryRunFlag (argument : String) : Bool := argument = "--dry-run" || argument = "-n"

/-- Whether an argument is a flag, known or not. -/
def isFlag (argument : String) : Bool := argument.toList.head? = some '-'

/-- The command that the arguments without the flags name, or the word that names none. -/
def Command.ofWords : List String → Except String Command
  | [] => .ok .provision
  | word :: rest =>
    if word = "bootstrap" then .ok .bootstrap
    else if word = "provision" then .ok .provision
    else if word = "verify" then .ok .verify
    else if word = "all" then .ok .all
    else if word = "report" then .ok (.report rest.head?)
    else .error word

/-- What arguments ask for, or the word that is no command.  Flags may stand anywhere. -/
def Invocation.ofArguments (arguments : List String) : Except String Invocation :=
  match Command.ofWords (arguments.filter fun argument => !isFlag argument) with
  | .ok command => .ok ⟨command, arguments.any isDryRunFlag⟩
  | .error word => .error word

/-! ### Phases -/

/-- Why a run stops. -/
inductive Stop where
  | error (e : Error)
  | datasetsFailed (failed total : Nat)
  | inconsistent
  | unknownReport (name : String)
  | dryReport
  deriving DecidableEq

/-- Why a run stops, in words. -/
def Stop.message : Stop → String
  | error e => e.message
  | datasetsFailed failed total =>
    toString failed ++ " of " ++ toString total ++ " datasets failed to provision"
  | inconsistent => "verification found inconsistent collections"
  | unknownReport name =>
    "unknown report '" ++ name ++ "', expected one of: " ++
      ", ".intercalate (Analytics.all.map (·.name))
  | dryReport => "reports read a live cluster and cannot run with --dry-run"

/-- A part of a run, over the state of a backend. -/
abbrev Phase (σ : Type) := ExceptT Stop (StateM σ)

/-- Runs a program over a connection of its own. -/
def inSession {σ ε α : Type} (backend : Backend σ) (settings : Settings)
    (p : StoreProgram ε (Except Error α)) : Phase σ α :=
  ExceptT.mk fun s =>
    let run := backend.session settings.store p s
    (run.value.mapError Stop.error, run.state)

/-- Bootstraps the cluster. -/
def bootstrapPhase {σ : Type} (backend : Backend σ) (settings : Settings) : Phase σ Unit := do
  let _ ← inSession backend settings (Bootstrap.ofSettings settings)

/-- Provisions the datasets; none may fail. -/
def provisionPhase {σ : Type} (backend : Backend σ) (settings : Settings) (env : Environment)
    (files : FileTree) : Phase σ Unit := do
  let report ← inSession backend settings (Provision.run (Plan.ofSettings env settings) files)
  if !report.isSuccess then
    throw (.datasetsFailed report.failed.length report.datasets.length)

/-- Verifies the collections; none may be inconsistent. -/
def verifyPhase {σ : Type} (backend : Backend σ) (settings : Settings) (env : Environment)
    (files : FileTree) : Phase σ Unit := do
  let report ← inSession backend settings (Verify.run (Catalog.ofSettings env settings) files)
  if !report.isConsistent then throw .inconsistent

/-- The phases of a command; reports are none of them. -/
def phases {σ : Type} (backend : Backend σ) (settings : Settings) (env : Environment)
    (files : FileTree) : Command → Phase σ Unit
  | .bootstrap => bootstrapPhase backend settings
  | .provision => provisionPhase backend settings env files
  | .verify => verifyPhase backend settings env files
  | .all => do
    bootstrapPhase backend settings
    provisionPhase backend settings env files
    verifyPhase backend settings env files
  | .report _ => pure ()

/-- The reports that are asked for. -/
def selectReports : Option String → Except Stop (List Analytics.Report)
  | none => .ok Analytics.all
  | some name =>
    match Analytics.named? name with
    | some report => .ok [report]
    | none => .error (.unknownReport name)

/-! ### Runs -/

/-- What a run leaves behind. -/
structure Output where
  exitCode : Nat
  stdout : String
  stderr : String
  deriving DecidableEq

/-- Lines, each with its end. -/
def unlines (lines : List String) : String := String.join (lines.map (· ++ "\n"))

/-- The output of a run that printed lines and ended. -/
def Output.ofEnd (lines : List String) : Except Stop Unit → Output
  | .ok () => ⟨0, unlines lines, ""⟩
  | .error stop => ⟨1, unlines lines, unlines ["Error: " ++ stop.message]⟩

/-- How the program is called. -/
def usage : List String :=
  ["Usage: shardload <bootstrap|provision|verify|all> [--dry-run]",
    "       shardload report [name]"]

/-- The output of a run with a word that is no command. -/
def Output.unknownCommand (word : String) : Output :=
  ⟨2, "", unlines (("Unknown command: " ++ word) :: usage)⟩

/-- The output of a run with a configuration that cannot be used. -/
def Output.badConfig (fault : Settings.ConfigFault) : Output :=
  ⟨1, "", unlines
    ["Error loading config: " ++ fault.error.message, "Error: " ++ fault.error.message]⟩

/-- Makes reports on a cluster. -/
def runReports {σ : Type} (cluster : Remote.Cluster σ) (files : FileTree) (settings : Settings)
    (name : Option String) (s : σ) : Output × σ :=
  match selectReports name with
  | .error stop => (.ofEnd [] (.error stop), s)
  | .ok reports =>
    let run := (Analytics.run files settings.store reports).run cluster s
    (.ofEnd run.events (run.value.mapError Stop.error), run.state)

/-- Does what was asked for, with settings that can be used. -/
def invoke {σ : Type} (cluster : Remote.Cluster σ) (env : Environment) (files : FileTree)
    (settings : Settings) (invocation : Invocation) (s : σ) : Output × σ :=
  match invocation.command, invocation.dryRun with
  | .report _, true => (.ofEnd [] (.error .dryReport), s)
  | .report name, false => runReports cluster files settings name s
  | command, true =>
    let ended := phases (MemoryStore.backend true) settings env files command .empty
    (.ofEnd [] ended.1, s)
  | command, false =>
    let backend := Remote.backend cluster files settings.store.database
    let ended := phases backend settings env files command s
    (.ofEnd [] ended.1, ended.2)

/-- The settings of a run in the working directory. -/
def settingsOf (env : Environment) (files : FileTree) :
    Except Settings.ConfigFault Settings :=
  Settings.ofConfig (Config.load files env "." (Config.environmentName env))

/-- One run of the program. -/
def run {σ : Type} (cluster : Remote.Cluster σ) (arguments : List String) (env : Environment)
    (files : FileTree) (s : σ) : Output × σ :=
  match settingsOf env files with
  | .error fault => (.badConfig fault, s)
  | .ok settings =>
    match Invocation.ofArguments arguments with
    | .error word => (.unknownCommand word, s)
    | .ok invocation => invoke cluster env files settings invocation s

end CommandLine

end BulkProvision
