/-!
# Errors of a run

What can go wrong while datasets are provisioned, and which errors end the whole run rather than
the work on one dataset.
-/

namespace BulkProvision

/-- Why a step failed. -/
inductive Error where
  | invalidConfig (reason : String)
  | unknownDataset (name : String)
  /-- The store cannot be reached or stopped answering. -/
  | unreachable (operation reason : String)
  /-- A source is missing, unreadable, or holds something else than conforming records. -/
  | dataFormat (dataset reason : String)
  /-- The store refused. -/
  | rejected (operation target reason : String)
  deriving DecidableEq

namespace Error

/-- The text of an error. -/
def message : Error → String
  | invalidConfig reason => "Invalid configuration: " ++ reason
  | unknownDataset name => "Unknown dataset: " ++ name
  | unreachable operation reason => "Store unreachable during " ++ operation ++ ": " ++ reason
  | dataFormat dataset reason => "Data format error in " ++ dataset ++ ": " ++ reason
  | rejected operation target reason =>
    "Store rejected " ++ operation ++ " on " ++ target ++ ": " ++ reason

/-- Whether an error ends the run: the remaining datasets would meet it too. -/
def isFatal : Error → Bool
  | invalidConfig _ => true
  | unreachable .. => true
  | _ => false

end Error

end BulkProvision
