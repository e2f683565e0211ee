import BulkProvision.Proofs.CallOrder
import BulkProvision.Remote.Store

/-!
# Calls as requests

A program of calls becomes a program of requests when every call is replaced by what it comes to
(`Program.translate`), and runs as it does over the backend on the same cluster
(`Program.run_translate`).

A call of a provisioning is carried out by one request (`exists_carried`), and its error is what
the failure of that request is read as (`Reading`): a failure of the transport says that the store
is out of reach, whatever else it says; for an operation that repeats, one that says that its goal
was met before is no error; any other is a refusal.
-/

namespace BulkProvision

namespace Program

variable {Op Op' : Type} {Answer : Op → Type} {Answer' : Op' → Type} {ε σ α : Type}

/-- Replaces every question by a program that answers it. -/
def translate (f : (op : Op) → Program Op' Answer' ε (Answer op)) :
    Program Op Answer ε α → Program Op' Answer' ε α
  | done value => done value
  | call op next => (f op).bind fun answer => translate f (next answer)
  | emit event next => emit event (translate f next)

/-- Where every question of a run is answered by one other question, a translated run comes to the
same, step by step. -/
theorem run_translate {f : (op : Op) → Program Op' Answer' ε (Answer op)}
    {handler : Handler Op' Answer' σ} {answers : Handler Op Answer σ}
    {R : Step Op' Answer' ε → Step Op Answer ε → Prop}
    (hemitted : ∀ event, R (.emitted event) (.emitted event)) (p : Program Op Answer ε α) (s : σ)
    (hcalled : ∀ op answer, .called op answer ∈ (p.run answers s).steps → ∀ t, ∃ step,
      (f op).run handler t = ⟨(answers op t).1, [step], (answers op t).2⟩ ∧
        R step (.called op (answers op t).1)) :
    ((p.translate f).run handler s).value = (p.run answers s).value ∧
      ((p.translate f).run handler s).state = (p.run answers s).state ∧
      List.Forall₂ R ((p.translate f).run handler s).steps (p.run answers s).steps := by
  induction p generalizing s with
  | done value => exact ⟨rfl, rfl, .nil⟩
  | emit event next ih =>
    obtain ⟨hvalue, hstate, hsteps⟩ := ih s fun op answer hmem =>
      hcalled op answer (List.mem_cons_of_mem _ hmem)
    exact ⟨hvalue, hstate, .cons (hemitted event) hsteps⟩
  | call op next ih =>
    obtain ⟨step, hrun, hstep⟩ := hcalled op _ List.mem_cons_self s
    obtain ⟨hvalue, hstate, hsteps⟩ := ih (answers op s).1 (answers op s).2 fun op' answer hmem =>
      hcalled op' answer (List.mem_cons_of_mem _ hmem)
    have htranslated : ((call op next).translate f).run handler s =
        (f op >>= fun answer => (next answer).translate f).run handler s := rfl
    rw [htranslated, run_bind, hrun]
    exact ⟨hvalue, hstate, .cons hstep hsteps⟩

end Program

namespace Remote

open Store Provision

/-! ### What a failure is read as -/

/-- The code by which a cluster says that the goal of an operation was met before. -/
def goalCode? (operation : String) : Option Int :=
  match operation with
  | "create_collection" => some 48
  | "enable_partitioning" => some 23
  | "partition_collection" => some 23
  | "ensure_user" => some 51003
  | _ => none

/-- A failure says that the goal of an operation was met before: by its code or, whatever its code
is, by the word "already" somewhere in its text, in any letter case. -/
def ReadAsMet (operation : String) (failure : Failure) : Prop :=
  ∃ code, goalCode? operation = some code ∧
    (failure.code? = some code ∨ "already".toList <:+: failure.text.toList.map Char.toLower)

/-- The error that the failure of an operation comes to, if it comes to one. -/
inductive Reading (operation target : String) (failure : Failure) : Option Error → Prop where
  | lost (h : failure.isTransport = true) :
      Reading operation target failure (some (.unreachable operation failure.text))
  | met (h : failure.isTransport = false) (hmet : ReadAsMet operation failure) :
      Reading operation target failure none
  | refused (h : failure.isTransport = false) (hmet : ¬ ReadAsMet operation failure) :
      Reading operation target failure (some (.rejected operation target failure.text))

theorem goalMet_iff {operation : String} {failure : Failure} :
    failure.signs.goalMet (goalCode? operation).toList = true ↔ ReadAsMet operation failure := by
  have hcode (code : Int) : failure.signs.code.any [code].contains = true ↔
      failure.code? = some code := by
    rw [Option.any_eq_true, Failure.signs]
    simp
  have htext : mentionsAlready failure.text = true ↔ _ := Text.contains_iff
  rw [ReadAsMet, ← htext]
  cases goalCode? operation with
  | none => cases hnone : failure.signs.code <;> simp [Signs.goalMet, hnone]
  | some code =>
    rw [Option.toList_some, Signs.goalMet, Bool.or_eq_true, hcode]
    simp [Failure.signs]

theorem classify_of_readAsMet {operation : String} (target : String) {failure : Failure}
    (htransport : failure.isTransport = false) (hmet : ReadAsMet operation failure) :
    classify operation target failure.signs (goalCode? operation).toList =
      .ok (.alreadySatisfied (operation ++ " on " ++ target ++ ": " ++ failure.text)) := by
  have hreachable : (!failure.signs.unreachable) = true := by
    rw [Failure.signs, htransport]
    rfl
  rw [classify, hreachable, goalMet_iff.2 hmet]
  rfl

/-- The reading of a failure by `classify`. -/
theorem reading_classify (operation target : String) (failure : Failure) :
    Reading operation target failure
      (error? (classify operation target failure.signs (goalCode? operation).toList)) := by
  have hunreachable : failure.signs.unreachable = failure.isTransport := rfl
  rw [classify, Signs.error, hunreachable]
  cases htransport : failure.isTransport with
  | true => exact .lost htransport
  | false =>
    cases hgoal : failure.signs.goalMet (goalCode? operation).toList with
    | true => exact .met htransport (goalMet_iff.1 hgoal)
    | false => exact .refused htransport fun hmet => Bool.false_ne_true (hgoal ▸ goalMet_iff.2 hmet)

/-- A host that cannot be found is a loss, whatever its name. -/
example : classify "create_collection" "stations"
    (Failure.nameResolution "already.example: no such host").signs [namespaceExists] =
      .error (.unreachable "create_collection" ("Kind: An error occurred during DNS resolution: " ++
        "already.example: no such host")) := by
  decide +kernel

/-! ### Requests -/

/-- The failure something ended with. -/
def failed? {α : Type} : Except Failure α → Option Failure
  | .error failure => some failure
  | .ok _ => none

/-- The failure that came back for a request. -/
def Request.failure? : (request : Request) → request.Answer → Option Failure
  | .reach _, answer => failed? answer
  | .create .., answer => failed? answer
  | .command .., answer => failed? answer
  | .deleteAll _, answer => failed? answer
  | .insert .., answer => failed? answer
  | .createIndex .., answer => failed? answer
  | .count _, answer => failed? answer
  | .listIndexes _, answer => failed? answer
  | .aggregate .., answer => failed? answer
  | .shutdown, () => none

/-- The operation that a command is sent for, by the name of the command. -/
def commandOperation (command : String) : String :=
  match command with
  | "collMod" => "alter_collection_validator"
  | "enableSharding" => "enable_partitioning"
  | "shardCollection" => "partition_collection"
  | "usersInfo" => "ensure_user"
  | "createUser" => "ensure_user"
  | other => other

/-- The operation that a request is made for. -/
def Request.operation : Request → String
  | .reach _ => "connect"
  | .create .. => "create_collection"
  | .command _ document => (document.head?.map fun field => commandOperation field.1).getD ""
  | .deleteAll _ => "delete_all"
  | .insert .. => "insert_many"
  | .createIndex .. => "create_index"
  | .count _ => "count_documents"
  | .listIndexes _ => "list_indexes"
  | .aggregate .. => "aggregate"
  | .shutdown => "close"

/-- A call is carried out by one request, whose answer is read as the answer of the call. -/
structure Carried (database : String) (call : Call) (request : Request)
    (read : request.Answer → call.Answer) : Prop where
  program (ε : Type) : (perform database call : RequestProgram ε call.Answer) =
    .call request fun answer => .done (read answer)
  operation : request.operation = call.operation
  answered (answer : request.Answer) (h : request.failure? answer = none) :
    answerError? call (read answer) = none
  failed (answer : request.Answer) (failure : Failure)
    (h : request.failure? answer = some failure) :
    Reading call.operation call.target failure (answerError? call (read answer))

/-- The transport failed a request. -/
def Severs (request : Request) (answer : request.Answer) : Prop :=
  ∃ failure, request.failure? answer = some failure ∧ failure.isTransport = true

/-- A request failed, and not because its goal was met before. -/
def Fails (request : Request) (answer : request.Answer) : Prop :=
  ∃ failure, request.failure? answer = some failure ∧ ¬ ReadAsMet request.operation failure

theorem not_severs {request : Request} {answer : request.Answer} {failure : Failure}
    (hfailure : request.failure? answer = some failure) (htransport : failure.isTransport = false) :
    ¬ Severs request answer := by
  rintro ⟨failure', hsome, htrue⟩
  obtain rfl := Option.some.inj (hfailure.symm.trans hsome)
  exact Bool.false_ne_true (htransport.symm.trans htrue)

/-- What the answer to the request of a call comes to: no error, the loss of the store, or the
refusal of this call. -/
theorem Carried.cases {database : String} {call : Call} {request : Request}
    {read : request.Answer → call.Answer} (h : Carried database call request read)
    (answer : request.Answer) :
    (answerError? call (read answer) = none ∧ ¬ Severs request answer ∧ ¬ Fails request answer) ∨
    (∃ failure : Failure, answerError? call (read answer) =
        some (.unreachable request.operation failure.text) ∧
      request.failure? answer = some failure ∧ failure.isTransport = true) ∨
    (∃ failure : Failure, answerError? call (read answer) =
        some (.rejected request.operation call.target failure.text) ∧
      ¬ Severs request answer ∧ Fails request answer) := by
  cases hfailure : request.failure? answer with
  | none =>
    refine .inl ⟨h.answered answer hfailure, ?_, ?_⟩
    · rintro ⟨failure, hsome, -⟩
      cases hfailure.symm.trans hsome
    · rintro ⟨failure, hsome, -⟩
      cases hfailure.symm.trans hsome
  | some failure =>
    have hreading := h.failed answer failure hfailure
    rw [← h.operation] at hreading
    generalize answerError? call (read answer) = error at hreading
    cases hreading with
    | lost htransport => exact .inr (.inl ⟨failure, rfl, rfl, htransport⟩)
    | refused htransport hmet =>
      exact .inr (.inr ⟨failure, rfl, not_severs hfailure htransport, failure, hfailure, hmet⟩)
    | met htransport hmet =>
      refine .inl ⟨rfl, not_severs hfailure htransport, ?_⟩
      rintro ⟨failure', hsome, hnot⟩
      obtain rfl := Option.some.inj (hfailure.symm.trans hsome)
      exact hnot hmet

theorem handle_of_carried {σ : Type} {cluster : Cluster σ} {files : FileTree} {database : String}
    {call : Call} {request : Request} {read : request.Answer → call.Answer}
    (h : Carried database call request read) (s : σ) :
    (backend cluster files database).handle call s =
      (read (cluster request s).1, (cluster request s).2) := by
  simp only [backend, h.program, Program.run_call, Program.run_done]

/-! ### The calls of a provisioning -/

section Reads

variable {α β : Type} {operation target : String} {read : Except Failure α → Except Error β}

theorem answered_of_ok (hok : ∀ value, error? (read (.ok value)) = none)
    (answer : Except Failure α) (h : failed? answer = none) : error? (read answer) = none := by
  cases answer with
  | error failure => cases h
  | ok value => exact hok value

theorem failed_of_classify
    (herror : ∀ failure, error? (read (.error failure)) =
      error? (classify operation target failure.signs (goalCode? operation).toList))
    (answer : Except Failure α) (failure : Failure) (h : failed? answer = some failure) :
    Reading operation target failure (error? (read answer)) := by
  cases answer with
  | ok value => cases h
  | error failure' =>
    obtain rfl : failure' = failure := Option.some.inj h
    rw [herror]
    exact reading_classify operation target failure'

/-- An operation without a code for a goal met before is failed by every failure. -/
theorem error?_orFail (hcode : goalCode? operation = none) (failure : Failure) :
    error? (orFail operation target (.error failure) : Except Error α) =
      error? (classify operation target failure.signs (goalCode? operation).toList) := by
  rw [hcode, Option.toList_none, classify_nil]
  rfl

end Reads

section Carried

variable {database : String}

theorem carried_createCollection (name : String) (schema : Schema) (level : Enforcement) :
    Carried database (.createCollection name schema level)
      (.create ⟨database, name⟩ (Document.validator schema) level)
      (settle "create_collection" name
        ("created collection " ++ name ++ " with validation schema") [namespaceExists]) where
  program _ := rfl
  operation := rfl
  answered := answered_of_ok fun _ => rfl
  failed := failed_of_classify fun _ => rfl

theorem carried_alterValidator (name : String) (schema : Schema) (level : Enforcement) :
    Carried database (.alterValidator name schema level)
      (.command database (modifyCommand name schema level))
      fun altered => (orFail "alter_collection_validator" name altered).map fun _ => () where
  program _ := rfl
  operation := rfl
  answered := answered_of_ok fun _ => rfl
  failed := failed_of_classify (error?_orFail rfl)

theorem carried_enablePartitioning (target : String) :
    Carried database (.enablePartitioning target) (.command adminDatabase (enableCommand target))
      (settle "enable_partitioning" target ("enabled sharding for database " ++ target)
        [alreadyInitialized]) where
  program _ := rfl
  operation := rfl
  answered := answered_of_ok fun _ => rfl
  failed := failed_of_classify fun _ => rfl

/-- What the answer to a request to partition a collection says. -/
def readPartitioned (name field : String) : Except Failure Document → Except Error Outcome
  | .error failure => classify "partition_collection" name failure.signs [alreadyInitialized]
  | .ok reply =>
    if partitionedNow reply then .ok (.applied ("sharded collection " ++ name ++ " by " ++ field))
    else .ok (.alreadySatisfied ("collection " ++ name ++ " already sharded by " ++ field))

theorem carried_partitionCollection (name field : String) (strategy : KeyStrategy) :
    Carried database (.partitionCollection name field strategy)
      (.command adminDatabase (partitionCommand ⟨database, name⟩ field strategy))
      (readPartitioned name field) where
  program _ := by
    refine congrArg (Program.call _) (funext fun answer => ?_)
    cases answer with
    | error failure => rfl
    | ok reply => exact (apply_ite Program.done _ _ _).symm
  operation := rfl
  answered := answered_of_ok fun reply => by
    rw [readPartitioned]
    split <;> rfl
  failed := failed_of_classify fun _ => rfl

theorem carried_deleteAll (name : String) :
    Carried database (.deleteAll name) (.deleteAll ⟨database, name⟩)
      (orFail "delete_all" name) where
  program _ := rfl
  operation := rfl
  answered := answered_of_ok fun _ => rfl
  failed := failed_of_classify (error?_orFail rfl)

theorem carried_insertMany (name : String) {records : List Record} (h : records ≠ []) :
    Carried database (.insertMany name records)
      (.insert ⟨database, name⟩ (records.map Document.ofRecord))
      fun inserted => (orFail "insert_many" name inserted).map
        fun _ => (records.map Document.ofRecord).length where
  program _ := by
    have hsome : (records.map Document.ofRecord).isEmpty = false := by
      rw [List.isEmpty_eq_false_iff]
      exact fun hnil => h (List.map_eq_nil_iff.1 hnil)
    rw [perform, insertDocuments, hsome]
    rfl
  operation := rfl
  answered := answered_of_ok fun _ => rfl
  failed := failed_of_classify (error?_orFail rfl)

theorem carried_createIndex (name field : String) :
    Carried database (.createIndex name field) (.createIndex ⟨database, name⟩ field)
      (orFail "create_index" name) where
  program _ := rfl
  operation := rfl
  answered := answered_of_ok fun _ => rfl
  failed := failed_of_classify (error?_orFail rfl)

/-- A provisioning makes such a call. -/
def Provisions : Call → Prop
  | .createCollection .. => True
  | .alterValidator .. => True
  | .enablePartitioning _ => True
  | .partitionCollection .. => True
  | .deleteAll _ => True
  | .insertMany _ records => records ≠ []
  | .createIndex .. => True
  | _ => False

/-- **Every call of a provisioning is one request.** -/
theorem exists_carried {call : Call} (h : Provisions call) :
    ∃ request read, Carried database call request read := by
  cases call with
  | createCollection name schema level => exact ⟨_, _, carried_createCollection name schema level⟩
  | alterValidator name schema level => exact ⟨_, _, carried_alterValidator name schema level⟩
  | enablePartitioning target => exact ⟨_, _, carried_enablePartitioning target⟩
  | partitionCollection name field strategy =>
    exact ⟨_, _, carried_partitionCollection name field strategy⟩
  | deleteAll name => exact ⟨_, _, carried_deleteAll name⟩
  | insertMany name records => exact ⟨_, _, carried_insertMany name h⟩
  | createIndex name field => exact ⟨_, _, carried_createIndex name field⟩
  | _ => cases h

end Carried

end Remote

end BulkProvision
