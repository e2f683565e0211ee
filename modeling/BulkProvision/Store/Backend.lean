import BulkProvision.Program
import BulkProvision.Settings.Basic
import BulkProvision.Store.Basic

/-!
# Backends and sessions

A backend opens connections and answers the calls made over them, from a state of its own: that of
a store in memory, of a remote cluster, or a whole history.  A session is one program run over one
connection: `Backend.session` connects, runs the program, closes the connection whatever became of
the program, and hands back what the program ended with.
-/

namespace BulkProvision

namespace Store

/-- Answers calls from a state. -/
abbrev CallHandler (σ : Type) := Handler Call Call.Answer σ

/-- A program that calls a store. -/
abbrev StoreProgram (ε α : Type) := Program Call Call.Answer ε α

/-- Opens connections and answers the calls made over them. -/
structure Backend (σ : Type) where
  connect : StoreSettings → σ → Except Error Unit × σ
  handle : CallHandler σ

/-- Runs a program and then closes the connection. -/
def closing {ε α : Type} (p : StoreProgram ε α) : StoreProgram ε α := do
  let value ← p
  Program.ask Call.close
  pure value

/-- Runs a program over a connection of its own. -/
def Backend.session {σ ε α : Type} (backend : Backend σ) (settings : StoreSettings)
    (p : StoreProgram ε (Except Error α)) (s : σ) :
    Program.Run Call Call.Answer ε σ (Except Error α) :=
  match backend.connect settings s with
  | (.error e, s) => ⟨.error e, [], s⟩
  | (.ok (), s) => (closing p).run backend.handle s

/-- The backend that fails some calls by itself, before the store sees them. -/
def Backend.refusing {σ : Type} (refuse : Call → Option Error) (backend : Backend σ) :
    Backend σ where
  connect := backend.connect
  handle call s :=
    match refuse call with
    | some e => (call.failure e, s)
    | none => backend.handle call s

end Store

end BulkProvision
