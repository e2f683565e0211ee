/-!
# Programs over an interface

A `Program` asks questions of some interface and goes on with the answers; on its way it may
announce events.  What answers the questions is left open: a `Handler` answers from a state, and
`Program.run` runs a program over a handler and records every question with its answer, and every
event, in order.  So one program can be run over any store, and what it asks, in which order and
after which answers, is a property of the recorded steps.

`Program.run_bind` says that a sequence of two programs runs as the one after the other.
-/

namespace BulkProvision

/-- Asks questions `Op`, announces events `ε` and ends in a value. -/
inductive Program (Op : Type) (Answer : Op → Type) (ε α : Type) where
  | done (value : α)
  | call (op : Op) (next : Answer op → Program Op Answer ε α)
  | emit (event : ε) (next : Program Op Answer ε α)

/-- Answers each question from a state. -/
abbrev Handler (Op : Type) (Answer : Op → Type) (σ : Type) := (op : Op) → σ → Answer op × σ

namespace Program

variable {Op : Type} {Answer : Op → Type} {ε σ α β γ : Type}

/-- What happened at one point of a run. -/
inductive Step (Op : Type) (Answer : Op → Type) (ε : Type) where
  | called (op : Op) (answer : Answer op)
  | emitted (event : ε)

/-- A finished run. -/
structure Run (Op : Type) (Answer : Op → Type) (ε σ α : Type) where
  value : α
  steps : List (Step Op Answer ε)
  state : σ

/-! ### Sequencing -/

/-- Goes on with a program that may look at the value. -/
def bind (p : Program Op Answer ε α) (f : α → Program Op Answer ε β) : Program Op Answer ε β :=
  match p with
  | done value => f value
  | call op next => call op fun answer => (next answer).bind f
  | emit event next => emit event (next.bind f)

instance : Monad (Program Op Answer ε) where
  pure := done
  bind := bind

/-- Asks one question. -/
def ask (op : Op) : Program Op Answer ε (Answer op) := call op done

/-- Announces one event. -/
def announce (event : ε) : Program Op Answer ε Unit := emit event (done ())

@[simp] theorem pure_eq (value : α) : (pure value : Program Op Answer ε α) = done value := rfl

@[simp] theorem done_bind (value : α) (f : α → Program Op Answer ε β) :
    done value >>= f = f value := rfl

@[simp] theorem call_bind (op : Op) (next : Answer op → Program Op Answer ε α)
    (f : α → Program Op Answer ε β) : call op next >>= f = call op fun a => next a >>= f := rfl

@[simp] theorem emit_bind (event : ε) (next : Program Op Answer ε α)
    (f : α → Program Op Answer ε β) : emit event next >>= f = emit event (next >>= f) := rfl

theorem bind_done (p : Program Op Answer ε α) : p >>= done = p := by
  induction p with
  | done value => rfl
  | call op next ih => simp only [call_bind, ih]
  | emit event next ih => simp only [emit_bind, ih]

theorem bind_assoc (p : Program Op Answer ε α) (f : α → Program Op Answer ε β)
    (g : β → Program Op Answer ε γ) : p >>= f >>= g = p >>= fun a => f a >>= g := by
  induction p with
  | done value => rfl
  | call op next ih => simp only [call_bind, ih]
  | emit event next ih => simp only [emit_bind, ih]

instance : LawfulMonad (Program Op Answer ε) :=
  LawfulMonad.mk' _ (fun p => bind_done p) (fun _ _ => rfl) bind_assoc

/-! ### Running -/

/-- Runs a program over a handler. -/
def run (handler : Handler Op Answer σ) :
    Program Op Answer ε α → σ → Run Op Answer ε σ α
  | done value, s => ⟨value, [], s⟩
  | call op next, s =>
    let answered := handler op s
    let rest := run handler (next answered.1) answered.2
    ⟨rest.value, .called op answered.1 :: rest.steps, rest.state⟩
  | emit event next, s =>
    let rest := run handler next s
    ⟨rest.value, .emitted event :: rest.steps, rest.state⟩

/-- The events of a run, in order. -/
def Run.events (r : Run Op Answer ε σ α) : List ε :=
  r.steps.filterMap fun
    | .called .. => none
    | .emitted event => some event

/-- The questions of a run, in order. -/
def Run.calls (r : Run Op Answer ε σ α) : List Op :=
  r.steps.filterMap fun
    | .called op _ => some op
    | .emitted _ => none

@[simp] theorem run_done (handler : Handler Op Answer σ) (value : α) (s : σ) :
    run handler (done value : Program Op Answer ε α) s = ⟨value, [], s⟩ := rfl

@[simp] theorem run_call (handler : Handler Op Answer σ) (op : Op)
    (next : Answer op → Program Op Answer ε α) (s : σ) :
    run handler (call op next) s =
      let rest := run handler (next (handler op s).1) (handler op s).2
      ⟨rest.value, .called op (handler op s).1 :: rest.steps, rest.state⟩ := rfl

@[simp] theorem run_emit (handler : Handler Op Answer σ) (event : ε)
    (next : Program Op Answer ε α) (s : σ) :
    run handler (emit event next) s =
      let rest := run handler next s
      ⟨rest.value, .emitted event :: rest.steps, rest.state⟩ := rfl

/-- A sequence of two programs runs as the one after the other. -/
theorem run_bind (handler : Handler Op Answer σ) (p : Program Op Answer ε α)
    (f : α → Program Op Answer ε β) (s : σ) :
    run handler (p >>= f) s =
      let first := run handler p s
      let second := run handler (f first.value) first.state
      ⟨second.value, first.steps ++ second.steps, second.state⟩ := by
  induction p generalizing s with
  | done value => rfl
  | call op next ih => simp only [call_bind, run_call, ih, List.cons_append]
  | emit event next ih => simp only [emit_bind, run_emit, ih, List.cons_append]

end Program

end BulkProvision
