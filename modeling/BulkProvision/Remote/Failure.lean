import BulkProvision.Store.Basic
import BulkProvision.Text.Split

/-!
# Failed requests

How a request to a cluster can fail, and what that means for a step (`Remote.classify`): the store
is out of reach, the goal of the step was met before, or the store refused.  The codes by which a
cluster says so go no further than this module.
-/

namespace BulkProvision

namespace Remote

/-- How a request to a cluster fails. -/
inductive Failure where
  /-- The cluster answered that it did not carry out the command. -/
  | command (code : Int) (codeName message : String)
  | connection (detail : String)
  | selection (detail : String)
  | poolCleared (detail : String)
  | nameResolution (detail : String)
  | reply (detail : String)
  | insertion (detail : String)
  | write (detail : String)
  | argument (detail : String)
  | encryption (detail : String)
  | custom (detail : String)
  | sessionsUnsupported
  | shutdown
  | resumeTokenMissing
  deriving DecidableEq

namespace Failure

/-- What happened, without the lead. -/
def body : Failure → String
  | command code name message =>
    "Command failed: Error code " ++ toString code ++ " (" ++ name ++ "): " ++ message
  | connection detail => "I/O error: " ++ detail
  | selection detail => "Server selection timeout: " ++ detail
  | poolCleared detail => detail
  | nameResolution detail => "An error occurred during DNS resolution: " ++ detail
  | reply detail => "The server returned an invalid reply to a database operation: " ++ detail
  | insertion detail =>
    "An error occurred when trying to execute an insert_many operation: " ++ detail
  | write detail => "An error occurred when trying to execute a write operation: " ++ detail
  | argument detail => "An invalid argument was provided: " ++ detail
  | encryption detail => detail
  | custom detail => "Custom user error: " ++ detail
  | sessionsUnsupported =>
    "Attempted to start a session on a deployment that does not support sessions"
  | shutdown => "Client has been shut down"
  | resumeTokenMissing => "Cannot provide resume functionality when the resume token is missing"

/-- What happened, in words. -/
def text (f : Failure) : String := "Kind: " ++ f.body

/-- The code a failed command was answered with. -/
def code? : Failure → Option Int
  | command code _ _ => some code
  | _ => none

/-- Whether the failure lies between here and the cluster. -/
def isTransport : Failure → Bool
  | connection _ => true
  | selection _ => true
  | poolCleared _ => true
  | nameResolution _ => true
  | _ => false

end Failure

/-- The parts of a failure that its meaning depends on. -/
structure Signs where
  code : Option Int
  message : String
  unreachable : Bool
  deriving DecidableEq

/-- The signs of a failure. -/
def Failure.signs (f : Failure) : Signs := ⟨f.code?, f.text, f.isTransport⟩

/-! ### Codes that mean a goal was met before -/

/-- The collection exists. -/
def namespaceExists : Int := 48

/-- The database or the collection is partitioned. -/
def alreadyInitialized : Int := 23

/-- The user exists. -/
def userExists : Int := 51003

/-! ### Meaning -/

/-- Whether a text has the word "already" in it, in any letter case. -/
def mentionsAlready (s : String) : Bool :=
  Text.contains "already".toList (s.toList.map Char.toLower)

/-- Whether the signs say that a goal was met before; `already` lists the codes that mean so.  For
a step without such codes it never was. -/
def Signs.goalMet (signs : Signs) (already : List Int) : Bool :=
  signs.code.any already.contains || (!already.isEmpty && mentionsAlready signs.message)

/-- The error of a step that did not meet its goal. -/
def Signs.error (operation target : String) (signs : Signs) : Error :=
  if signs.unreachable then .unreachable operation signs.message
  else .rejected operation target signs.message

/-- What a failed request means for a step. -/
def classify (operation target : String) (signs : Signs) (already : List Int) :
    Except Error Outcome :=
  if !signs.unreachable && signs.goalMet already then
    .ok (.alreadySatisfied (operation ++ " on " ++ target ++ ": " ++ signs.message))
  else .error (signs.error operation target)

/-- Without codes for a goal met before, every failure is an error. -/
theorem classify_nil (operation target : String) (signs : Signs) :
    classify operation target signs [] = .error (signs.error operation target) := by
  have : signs.goalMet [] = false := by
    cases h : signs.code <;> simp [Signs.goalMet, h]
  simp [classify, this]

/-- The error of a failed request that has no goal it could have met before. -/
def Failure.error (operation target : String) (f : Failure) : Error :=
  f.signs.error operation target

end Remote

end BulkProvision
