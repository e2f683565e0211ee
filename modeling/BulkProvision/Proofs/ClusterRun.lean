import BulkProvision.Proofs.Requests
import BulkProvision.Proofs.Source

/-!
# Runs over a cluster

A provisioning over the backend on a cluster is a program of requests, and runs as one: the
requests with their answers, and the reports between them, in order (`clusterRun`).  Whatever comes
back for the requests, the run returns an error exactly when the transport fails one of them; that
one is the last, and the error names its operation.  Otherwise the run reports every dataset in
order, as failed exactly when its source does not load or one of its requests fails for another
reason than that its goal was met before (`outcome_of_clusterRun`).
-/

namespace BulkProvision

namespace Provision

open Store Remote

/-- One step of a provisioning over a cluster. -/
abbrev RequestStep := Program.Step Request Request.Answer DatasetReport

/-- A run over an open connection to a cluster, for the collections of a database, by requests. -/
def clusterRun {σ : Type} (cluster : Cluster σ) (plan : Plan) (files : FileTree)
    (database : String) (s : σ) :
    Program.Run Request Request.Answer DatasetReport σ (Except Error Report) :=
  ((run plan files).translate (perform database)).run cluster s

/-- One of the requests, with its answer, is of a kind. -/
def HasRequest (P : (request : Request) → request.Answer → Prop) (steps : List RequestStep) :
    Prop :=
  ∃ request answer, .called request answer ∈ steps ∧ P request answer

/-- The transport failed the last of the requests and none before it, and this is the error that
says so. -/
def Lost (steps : List RequestStep) (e : Error) : Prop :=
  ∃ before request answer failure, steps = before ++ [.called request answer] ∧
    ¬ HasRequest Severs before ∧ request.failure? answer = some failure ∧
    failure.isTransport = true ∧ e = .unreachable request.operation failure.text

/-- The source of a dataset loads. -/
def Loads (plan : Plan) (files : FileTree) (dataset : Dataset) : Prop :=
  ∃ schema loaded, plan.registry.find dataset.name = .ok schema ∧
    Source.loadDataset files plan.rules dataset schema = .ok loaded

/-- The operations on the collection of a dataset. -/
def datasetOperations : List String :=
  ["create_collection", "alter_collection_validator", "partition_collection", "delete_all",
    "insert_many", "create_index"]

/-- The requests for a dataset that did not end the run, and its report. -/
structure Served (plan : Plan) (files : FileTree) (dataset : Dataset) (part : List RequestStep)
    (entry : DatasetReport) : Prop where
  name : entry.name = dataset.name
  requests : ∀ step ∈ part, ∃ request answer, step = .called request answer ∧
    request.operation ∈ datasetOperations
  steady : ¬ HasRequest Severs part
  error : entry.error.isSome = true ↔ ¬ Loads plan files dataset ∨ HasRequest Fails part

/-- Datasets are served in order: their requests, each followed by the report, and the reports. -/
inductive AllServed (plan : Plan) (files : FileTree) :
    List Dataset → List RequestStep → List DatasetReport → Prop where
  | nil : AllServed plan files [] [] []
  | cons {dataset : Dataset} {datasets : List Dataset} {part steps : List RequestStep}
      {entry : DatasetReport} {entries : List DatasetReport}
      (hfirst : Served plan files dataset part entry)
      (hrest : AllServed plan files datasets steps entries) :
      AllServed plan files (dataset :: datasets) (part ++ .emitted entry :: steps)
        (entry :: entries)

/-- How the requests for datasets in order end: the store is lost, or all datasets are served. -/
def Concluded (plan : Plan) (files : FileTree) (datasets : List Dataset)
    (steps : List RequestStep) : Except Error (List DatasetReport) → Prop
  | .error e => Lost steps e
  | .ok entries => AllServed plan files datasets steps entries

/-- A step as a request, and as the call that it carries out. -/
inductive Carries (database : String) : RequestStep → StoreStep → Prop where
  | called {call : Call} {request : Request} {read : request.Answer → call.Answer}
      (h : Carried database call request read) (answer : request.Answer) :
      Carries database (.called request answer) (.called call (read answer))
  | emitted (report : DatasetReport) : Carries database (.emitted report) (.emitted report)

variable {plan : Plan} {files : FileTree} {dataset : Dataset} {datasets : List Dataset}
  {database : String} {part steps : List RequestStep}

/-! ### Steps in order -/

section HasRequest

variable {P : (request : Request) → request.Answer → Prop}

@[simp] theorem hasRequest_nil : ¬ HasRequest P [] := by
  rintro ⟨request, answer, hmem, -⟩
  cases hmem

@[simp] theorem hasRequest_called {request : Request} {answer : request.Answer} :
    HasRequest P (.called request answer :: steps) ↔ P request answer ∨ HasRequest P steps := by
  constructor
  · rintro ⟨request', answer', hmem, hp⟩
    rcases List.mem_cons.1 hmem with heq | hmem
    · cases heq
      exact .inl hp
    · exact .inr ⟨request', answer', hmem, hp⟩
  · rintro (hp | ⟨request', answer', hmem, hp⟩)
    · exact ⟨request, answer, List.mem_cons_self, hp⟩
    · exact ⟨request', answer', List.mem_cons_of_mem _ hmem, hp⟩

@[simp] theorem hasRequest_emitted {report : DatasetReport} :
    HasRequest P (.emitted report :: steps) ↔ HasRequest P steps := by
  constructor
  · rintro ⟨request, answer, hmem, hp⟩
    rcases List.mem_cons.1 hmem with heq | hmem
    · cases heq
    · exact ⟨request, answer, hmem, hp⟩
  · rintro ⟨request, answer, hmem, hp⟩
    exact ⟨request, answer, List.mem_cons_of_mem _ hmem, hp⟩

@[simp] theorem hasRequest_append {before after : List RequestStep} :
    HasRequest P (before ++ after) ↔ HasRequest P before ∨ HasRequest P after := by
  simp only [HasRequest, List.mem_append, or_and_right, exists_or]

end HasRequest

theorem Lost.hasRequest {e : Error} (h : Lost steps e) : HasRequest Severs steps := by
  obtain ⟨before, request, answer, failure, rfl, -, hfailure, htransport, -⟩ := h
  exact hasRequest_append.2 (.inr (hasRequest_called.2 (.inl ⟨failure, hfailure, htransport⟩)))

/-- Other requests went before. -/
theorem Lost.prepend {before : List RequestStep} (hbefore : ¬ HasRequest Severs before) {e : Error}
    (h : Lost steps e) : Lost (before ++ steps) e := by
  obtain ⟨before', request, answer, failure, rfl, hsteady, hlast⟩ := h
  refine ⟨before ++ before', request, answer, failure, (List.append_assoc ..).symm, ?_, hlast⟩
  rw [hasRequest_append, not_or]
  exact ⟨hbefore, hsteady⟩

/-- Steps that carry out one list of calls after another. -/
theorem exists_append_of_carries {calls₁ calls₂ : List StoreStep}
    (h : List.Forall₂ (Carries database) steps (calls₁ ++ calls₂)) :
    ∃ steps₁ steps₂, steps = steps₁ ++ steps₂ ∧ List.Forall₂ (Carries database) steps₁ calls₁ ∧
      List.Forall₂ (Carries database) steps₂ calls₂ :=
  ⟨steps.take calls₁.length, steps.drop calls₁.length, (List.take_append_drop ..).symm,
    List.forall₂_take_append _ _ _ h, List.forall₂_drop_append _ _ _ h⟩

/-! ### One dataset -/

/-- How the requests for some calls end: all went well, the store was lost, or one of the calls was
refused. -/
inductive Ending (part : List RequestStep) : Except Error Unit → Prop where
  | well (hsteady : ¬ HasRequest Severs part) (hwell : ¬ HasRequest Fails part) :
      Ending part (.ok ())
  | lost {e : Error} (hfatal : e.isFatal = true) (h : Lost part e) : Ending part (.error e)
  | refused {e : Error} (hfatal : e.isFatal = false) (hsteady : ¬ HasRequest Severs part)
      (hfailed : HasRequest Fails part) : Ending part (.error e)

/-- A request that went well stands before the others. -/
theorem Ending.cons {request : Request} {answer : request.Answer} {ended : Except Error Unit}
    (hsevers : ¬ Severs request answer) (hfails : ¬ Fails request answer)
    (h : Ending part ended) : Ending (.called request answer :: part) ended := by
  cases h with
  | well hsteady hwell => exact .well (by simp [hsevers, hsteady]) (by simp [hfails, hwell])
  | lost hfatal hlost =>
    have hbefore : ¬ HasRequest Severs [.called request answer] := by simp [hsevers]
    exact .lost hfatal (hlost.prepend hbefore)
  | refused hfatal hsteady hfailed =>
    exact .refused hfatal (by simp [hsevers, hsteady]) (hasRequest_called.2 (.inr hfailed))

/-- Calls that are asked up to the first that fails end as their requests do. -/
theorem Asked.ending {calls : List Call} {asked : List StoreStep} {ended : Except Error Unit}
    (h : Asked calls asked ended) (hpart : List.Forall₂ (Carries database) part asked) :
    Ending part ended := by
  induction h generalizing part with
  | nil =>
    cases hpart
    exact .well hasRequest_nil hasRequest_nil
  | stopped rest h =>
    cases hpart with
    | cons hfirst hnil =>
      cases hnil
      cases hfirst with
      | called hcarried answer =>
        rcases hcarried.cases answer with ⟨hnone, -⟩ | ⟨failure, herror, hfailure, htransport⟩ |
          ⟨failure, herror, hsevers, hfails⟩
        · cases h.symm.trans hnone
        · obtain rfl := Option.some.inj (h.symm.trans herror)
          exact .lost rfl ⟨[], _, _, failure, rfl, hasRequest_nil, hfailure, htransport, rfl⟩
        · obtain rfl := Option.some.inj (h.symm.trans herror)
          exact .refused rfl (by simp [hsevers]) (hasRequest_called.2 (.inl hfails))
  | next h hrest ih =>
    cases hpart with
    | cons hfirst hothers =>
      cases hfirst with
      | called hcarried answer =>
        rcases hcarried.cases answer with ⟨-, hsevers, hfails⟩ | ⟨failure, herror, -⟩ |
          ⟨failure, herror, -⟩
        · exact (ih hothers).cons hsevers hfails
        · cases h.symm.trans herror
        · cases h.symm.trans herror

/-- The calls for a dataset are about its collection, and are such as a provisioning makes. -/
theorem Block.provisions {asked : List StoreStep} {ended : Except Error Unit}
    (h : Block plan files dataset asked ended) :
    ∀ step ∈ asked, ∃ call answer, step = .called call answer ∧ Provisions call ∧
      call.operation ∈ datasetOperations := by
  intro step hstep
  cases h with
  | unknown => cases hstep
  | followed _ _ hasked =>
    obtain ⟨call, answer, rfl, hmem⟩ := hasked.mem hstep
    refine ⟨call, answer, rfl, ?_⟩
    rcases mem_agenda hmem with rfl | rfl | rfl | hmem
    · exact ⟨trivial, by simp [Call.operation, datasetOperations]⟩
    · exact ⟨trivial, by simp [Call.operation, datasetOperations]⟩
    · exact ⟨trivial, by simp [Call.operation, datasetOperations]⟩
    · obtain ⟨loaded, -, rfl | ⟨hne, rfl⟩ | ⟨field, rfl⟩⟩ := mem_refill hmem
      · exact ⟨trivial, by simp [Call.operation, datasetOperations]⟩
      · exact ⟨hne, by simp [Call.operation, datasetOperations]⟩
      · exact ⟨trivial, by simp [Call.operation, datasetOperations]⟩

/-- The requests for a dataset are about its collection. -/
theorem operation_of_carries {asked : List StoreStep}
    (hpart : List.Forall₂ (Carries database) part asked)
    (hasked : ∀ step ∈ asked, ∃ call answer, step = .called call answer ∧ Provisions call ∧
      call.operation ∈ datasetOperations) :
    ∀ step ∈ part, ∃ request answer, step = .called request answer ∧
      request.operation ∈ datasetOperations := by
  induction hpart with
  | nil => simp
  | cons hfirst _ ih =>
    rw [List.forall_mem_cons] at hasked ⊢
    refine ⟨?_, ih hasked.2⟩
    obtain ⟨call, answer, heq, -, hoperation⟩ := hasked.1
    cases hfirst with
    | emitted => cases heq
    | called hcarried answer =>
      cases heq
      exact ⟨_, answer, rfl, hcarried.operation ▸ hoperation⟩

/-- A dataset that does not end the run. -/
theorem fatal?_eq_none {e : Error} (h : e.isFatal = false) :
    Verify.fatal? (.error e : Except Error Unit) = none := by
  rw [Verify.fatal?, h]
  rfl

/-- **The requests for one dataset**: they end in the loss of the store, or the dataset ends with an
error exactly when its source does not load or one of them fails. -/
theorem Block.requests {asked : List StoreStep} {ended : Except Error Unit}
    (h : Block plan files dataset asked ended)
    (hpart : List.Forall₂ (Carries database) part asked) :
    (∃ e, ended = .error e ∧ e.isFatal = true ∧ Lost part e) ∨
      (Verify.fatal? ended = none ∧ ¬ HasRequest Severs part ∧
        ((error? ended).isSome = true ↔ ¬ Loads plan files dataset ∨ HasRequest Fails part)) := by
  cases h with
  | @unknown e hunknown =>
    cases hpart
    have hloads : ¬ Loads plan files dataset := by
      rintro ⟨schema, loaded, hschema, -⟩
      cases hunknown.symm.trans hschema
    have hfatal : e.isFatal = false := by
      rw [Registry.find] at hunknown
      split at hunknown
      · cases hunknown
      · cases hunknown
        rfl
    exact .inr ⟨fatal?_eq_none hfatal, hasRequest_nil, fun _ => .inl hloads, fun _ => rfl⟩
  | @followed schema source asked ended hschema hsource hasked =>
    cases hasked.ending hpart with
    | lost hfatal hlost => exact .inl ⟨_, rfl, hfatal, hlost⟩
    | refused hfatal hsteady hfailed =>
      exact .inr ⟨fatal?_eq_none hfatal, hsteady, fun _ => .inr hfailed, fun _ => rfl⟩
    | well hsteady hwell =>
      cases source with
      | ok loaded =>
        refine .inr ⟨rfl, hsteady, fun herror => ?_, ?_⟩
        · cases herror
        · rintro (hloads | hfailed)
          · exact absurd ⟨schema, loaded, hschema, hsource⟩ hloads
          · exact absurd hfailed hwell
      | error e =>
        have hloads : ¬ Loads plan files dataset := by
          rintro ⟨schema', loaded, hschema', hloaded⟩
          obtain rfl := Except.ok.inj (hschema.symm.trans hschema')
          cases hsource.symm.trans hloaded
        exact .inr ⟨fatal?_eq_none (Source.isFatal_of_loadDataset hsource), hsteady,
          fun _ => .inl hloads, fun _ => rfl⟩

/-! ### Datasets in order -/

theorem AllServed.steady {entries : List DatasetReport}
    (h : AllServed plan files datasets steps entries) : ¬ HasRequest Severs steps := by
  induction h with
  | nil => exact hasRequest_nil
  | cons hfirst hrest ih =>
    rw [hasRequest_append, hasRequest_emitted, not_or]
    exact ⟨hfirst.steady, ih⟩

theorem AllServed.names {entries : List DatasetReport}
    (h : AllServed plan files datasets steps entries) :
    entries.map DatasetReport.name = datasets.map Dataset.name := by
  induction h with
  | nil => rfl
  | cons hfirst hrest ih => rw [List.map_cons, List.map_cons, hfirst.name, ih]

/-- **The requests for datasets in order.** -/
theorem Walk.requests {asked : List StoreStep} {result : Except Error (List DatasetReport)}
    (h : Walk plan files datasets asked result)
    (hsteps : List.Forall₂ (Carries database) steps asked) :
    Concluded plan files datasets steps result := by
  induction h generalizing steps with
  | nil =>
    cases hsteps
    exact .nil
  | @next dataset rest block asked ended report result hblock hfatal hname herror _ _ ih =>
    obtain ⟨part, others, rfl, hpart, hothers⟩ := exists_append_of_carries hsteps
    cases hothers with
    | cons hemitted hothers =>
      cases hemitted
      rcases hblock.requests hpart with ⟨e, rfl, htrue, -⟩ | ⟨-, hsteady, hiff⟩
      · rw [Verify.fatal?, if_pos htrue] at hfatal
        cases hfatal
      · have hothers := ih hothers
        cases result with
        | error e =>
          have hreported : ¬ HasRequest Severs (part ++ [.emitted report]) := by simp [hsteady]
          have hlost := Lost.prepend hreported hothers
          rw [List.append_assoc, List.singleton_append] at hlost
          exact hlost
        | ok entries =>
          have hoperations := operation_of_carries hpart hblock.provisions
          exact .cons ⟨hname, hoperations, hsteady, herror ▸ hiff⟩ hothers
  | aborted rest hblock hfatal _ =>
    rcases hblock.requests hsteps with ⟨e, heq, -, hlost⟩ | ⟨hnone, -⟩
    · cases heq
      exact hlost
    · rw [Verify.fatal?, if_pos hfatal] at hnone
      cases hnone

/-! ### Whole runs -/

theorem Walk.provisions {asked : List StoreStep} {result : Except Error (List DatasetReport)}
    (h : Walk plan files datasets asked result) {call : Call} {answer : call.Answer}
    (hcalled : .called call answer ∈ asked) : Provisions call := by
  obtain ⟨dataset, -, block, ended, hblock, hmem⟩ := h.exists_block hcalled
  obtain ⟨call', answer', heq, hprovisions, -⟩ := hblock.provisions _ hmem
  cases heq
  exact hprovisions

section Runs

variable {σ : Type} (cluster : Cluster σ) (plan : Plan) (files : FileTree) (database : String)
  (s : σ)

/-- Every call of a run is one request. -/
theorem provisions_of_run {call : Call} {answer : call.Answer}
    (h : .called call answer ∈
      ((run plan files).run (backend cluster files database).handle s).steps) :
    Provisions call := by
  rw [run_run] at h
  generalize (backend cluster files database).handle (.enablePartitioning plan.database) s = opening
    at h
  cases hfatal : Verify.fatal? opening.1 with
  | some e =>
    simp only [hfatal] at h
    cases List.mem_singleton.1 h
    trivial
  | none =>
    simp only [hfatal] at h
    rcases List.mem_cons.1 h with heq | h
    · cases heq
      trivial
    · exact (walk_provisionDatasets _ plan files plan.catalog opening.2).provisions h

/-- **A run by requests is the run over the backend**, step by step. -/
theorem clusterRun_carries :
    let ran := clusterRun cluster plan files database s
    let asked := (run plan files).run (backend cluster files database).handle s
    ran.value = asked.value ∧ ran.state = asked.state ∧
      List.Forall₂ (Carries database) ran.steps asked.steps := by
  refine Program.run_translate .emitted (run plan files) s fun call answer hcalled t => ?_
  obtain ⟨request, read, hcarried⟩ :=
    @exists_carried database call (provisions_of_run cluster plan files database s hcalled)
  refine ⟨.called request (cluster request t).1, ?_, ?_⟩
  · rw [handle_of_carried hcarried, hcarried.program]
    rfl
  · rw [handle_of_carried hcarried]
    exact .called hcarried _

theorem events_of_carries {steps : List RequestStep} {called : List StoreStep}
    (h : List.Forall₂ (Carries database) steps called) (value value' : Except Error Report)
    (state state' : σ) :
    Program.Run.events ⟨value, steps, state⟩ = Program.Run.events ⟨value', called, state'⟩ := by
  induction h with
  | nil => rfl
  | cons hfirst _ ih =>
    simp only [Program.Run.events, List.filterMap_cons] at ih ⊢
    cases hfirst with
    | called => exact ih
    | emitted report => exact congrArg (List.cons report) ih

/-- An answer is fatal exactly where the transport failed the request. -/
theorem fatal?_of_carried {call : Call} {request : Request}
    {read : request.Answer → call.Answer} (h : Carried database call request read)
    (answer : request.Answer) :
    (∃ e, (answerError? call (read answer)).filter Error.isFatal = some e ∧
        Lost [.called request answer] e) ∨
      ((answerError? call (read answer)).filter Error.isFatal = none ∧
        ¬ Severs request answer) := by
  rcases h.cases answer with ⟨hnone, hsevers, -⟩ | ⟨failure, herror, hfailure, htransport⟩ |
    ⟨failure, herror, hsevers, -⟩
  · rw [hnone]
    exact .inr ⟨rfl, hsevers⟩
  · rw [herror]
    exact .inl
      ⟨_, rfl, [], request, answer, failure, rfl, hasRequest_nil, hfailure, htransport, rfl⟩
  · rw [herror]
    exact .inr ⟨rfl, hsevers⟩

/-- Either the store is lost, or all datasets are served once partitioning was requested. -/
theorem clusterRun_cases :
    (∃ e, (clusterRun cluster plan files database s).value = .error e ∧
        Lost (clusterRun cluster plan files database s).steps e) ∨
      ∃ entries answer steps, (clusterRun cluster plan files database s).value = .ok ⟨entries⟩ ∧
        (clusterRun cluster plan files database s).steps =
          .called (.command adminDatabase (enableCommand plan.database)) answer :: steps ∧
        ¬ HasRequest Severs (clusterRun cluster plan files database s).steps ∧
        AllServed plan files plan.catalog steps entries := by
  obtain ⟨hvalue, -, hcarries⟩ := clusterRun_carries cluster plan files database s
  have hcarried : Carried database (.enablePartitioning plan.database) _ _ :=
    carried_enablePartitioning plan.database
  obtain ⟨others, hhead⟩ : ∃ others, (clusterRun cluster plan files database s).steps =
      .called (.command adminDatabase (enableCommand plan.database))
        (cluster (.command adminDatabase (enableCommand plan.database)) s).1 :: others := ⟨_, rfl⟩
  rw [run_run, handle_of_carried hcarried] at hvalue hcarries
  rw [hhead] at hcarries ⊢
  generalize cluster (.command adminDatabase (enableCommand plan.database)) s = opening
    at hvalue hcarries ⊢
  rcases fatal?_of_carried database hcarried opening.1 with ⟨e, hfatal, hlost⟩ | ⟨hfatal, hsevers⟩
  · replace hfatal := (fatal?_eq_filter _).trans hfatal
    simp only [hfatal] at hvalue hcarries
    cases hcarries with
    | cons _ hothers =>
      cases hothers
      exact .inl ⟨e, hvalue, hlost⟩
  · replace hfatal := (fatal?_eq_filter _).trans hfatal
    simp only [hfatal] at hvalue hcarries
    have hwalk := walk_provisionDatasets (backend cluster files database).handle plan files
      plan.catalog opening.2
    generalize (provisionDatasets plan files plan.catalog).run
      (backend cluster files database).handle opening.2 = walk at hvalue hcarries hwalk
    cases hcarries with
    | cons _ hothers =>
      have hrequests := hwalk.requests hothers
      have hopening : ¬ HasRequest Severs [.called _ opening.1] := by simp [hsevers]
      cases hresult : walk.value with
      | error e =>
        rw [hresult] at hvalue hrequests
        exact .inl ⟨e, hvalue, Lost.prepend hopening hrequests⟩
      | ok entries =>
        rw [hresult] at hvalue hrequests
        refine .inr ⟨entries, opening.1, others, hvalue, rfl, ?_, hrequests⟩
        rw [hasRequest_called, not_or]
        exact ⟨hsevers, hrequests.steady⟩

end Runs

/-- **What comes back for the requests of a run decides it.**  A run over a cluster is the run over
the backend on it.  It returns an error exactly when the transport fails one of its requests; that
request is the last, none before it was failed so, and the error says that the store was lost in
its operation.  Otherwise partitioning was requested for the database, and then all datasets are
served in catalog order: each is reported, and with an error exactly when its source does not load
or one of the requests for it fails, unless the failure says that its goal was met before. -/
theorem outcome_of_clusterRun {σ : Type} (cluster : Cluster σ) (plan : Plan) (files : FileTree)
    (database : String) (s : σ) :
    let ran := clusterRun cluster plan files database s
    let asked := (run plan files).run (backend cluster files database).handle s
    (ran.value = asked.value ∧ ran.events = asked.events ∧ ran.state = asked.state) ∧
      ((∃ e, ran.value = .error e) ↔ HasRequest Severs ran.steps) ∧
      (∀ e, ran.value = .error e → Lost ran.steps e) ∧
      ∀ report, ran.value = .ok report →
        report.datasets.map DatasetReport.name = plan.catalog.map Dataset.name ∧
          ∃ answer steps, ran.steps =
            .called (.command adminDatabase (enableCommand plan.database)) answer :: steps ∧
            AllServed plan files plan.catalog steps report.datasets := by
  intro ran asked
  obtain ⟨hvalue, hstate, hcarries⟩ := clusterRun_carries cluster plan files database s
  have hevents : ran.events = asked.events :=
    events_of_carries database hcarries ran.value asked.value ran.state asked.state
  refine ⟨⟨hvalue, hevents, hstate⟩, ?_⟩
  rcases clusterRun_cases cluster plan files database s with ⟨e, herror, hlost⟩ |
    ⟨entries, answer, steps, hok, hsteps, hsteady, hserved⟩
  · refine ⟨⟨fun _ => hlost.hasRequest, fun _ => ⟨e, herror⟩⟩, fun e' herror' => ?_,
      fun report hreport => ?_⟩
    · obtain rfl := Except.error.inj (herror.symm.trans herror')
      exact hlost
    · cases herror.symm.trans hreport
  · refine ⟨⟨fun ⟨e, herror⟩ => ?_, fun hsevers => absurd hsevers hsteady⟩, fun e herror => ?_,
      fun report hreport => ?_⟩
    · cases hok.symm.trans herror
    · cases hok.symm.trans herror
    · obtain rfl := Except.ok.inj (hok.symm.trans hreport)
      exact ⟨hserved.names, answer, steps, hsteps, hserved⟩

end Provision

end BulkProvision
