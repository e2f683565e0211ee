import BulkProvision.Bootstrap
import BulkProvision.Proofs.MemoryRun

/-!
# Connections and announcements

A session asks for nothing where it cannot connect; where it can, it closes the connection once,
after everything else, and comes to what the program inside came to, however that ended
(`Released`).  For this the program must not close the connection itself, which none of the three
does that run over a connection.

A provisioning announces the reports of the datasets that finished, in order, and no others: all of
them when it returns a report, and those before the dataset that ended it otherwise (`Announces`).
`released_of_session` says both of every store, whatever it answers.
-/

namespace BulkProvision

open Store

namespace Program

variable {Op : Type} {Answer : Op → Type} {ε σ α β : Type}

/-- Whatever is answered, the program asks only such questions. -/
def AsksOnly (P : Op → Prop) : Program Op Answer ε α → Prop
  | done _ => True
  | call op next => P op ∧ ∀ answer, AsksOnly P (next answer)
  | emit _ next => AsksOnly P next

variable {P : Op → Prop} {p : Program Op Answer ε α}

theorem AsksOnly.bind {f : α → Program Op Answer ε β} (hp : p.AsksOnly P)
    (hf : ∀ value, (f value).AsksOnly P) : (p >>= f).AsksOnly P := by
  induction p with
  | done value => exact hf value
  | call op next ih => exact ⟨hp.1, fun answer => ih answer (hp.2 answer)⟩
  | emit event next ih => exact ih hp

theorem asksOnly_ask {op : Op} (h : P op) :
    (ask op : Program Op Answer ε (Answer op)).AsksOnly P :=
  ⟨h, fun _ => trivial⟩

/-- The questions of a run are among those. -/
theorem AsksOnly.of_mem_calls (h : p.AsksOnly P) {handler : Handler Op Answer σ} {s : σ} {op : Op}
    (hop : op ∈ (p.run handler s).calls) : P op := by
  induction p generalizing s with
  | done value => cases hop
  | call op' next ih =>
    rcases List.mem_cons.1 hop with rfl | hop
    · exact h.1
    · exact ih _ (h.2 _) hop
  | emit event next ih => exact ih h hop

end Program

namespace Store

variable {σ ε α : Type}

/-! ### Sessions -/

/-- A session comes to nothing where it cannot connect; where it can, it comes to what the program
comes to, and closes once, last of all. -/
structure Released (backend : Backend σ) (settings : StoreSettings)
    (p : StoreProgram ε (Except Error α)) (s : σ) : Prop where
  failed : ∀ e t, backend.connect settings s = (.error e, t) →
    backend.session settings p s = ⟨.error e, [], t⟩
  closed : ∀ t, backend.connect settings s = (.ok (), t) →
    let inner := p.run backend.handle t
    backend.session settings p s =
        ⟨inner.value, inner.steps ++ [.called .close ()], (backend.handle .close inner.state).2⟩ ∧
      .close ∉ inner.calls

theorem session_of_connect {backend : Backend σ} {settings : StoreSettings} {s t : σ}
    (h : backend.connect settings s = (.ok (), t)) (p : StoreProgram ε (Except Error α)) :
    backend.session settings p s = (closing p).run backend.handle t := by
  rw [Backend.session, h]

/-- A program that does not close the connection itself. -/
theorem released_of_not_mem {backend : Backend σ} {settings : StoreSettings}
    {p : StoreProgram ε (Except Error α)} {s : σ}
    (h : ∀ t, .close ∉ (p.run backend.handle t).calls) : Released backend settings p s where
  failed e t hconnect := by rw [Backend.session, hconnect]
  closed t hconnect := by
    rw [session_of_connect hconnect, run_closing]
    exact ⟨rfl, h t⟩

end Store

/-! ### Programs that leave the connection open -/

theorem Bootstrap.asksOnly_run (credential : Credential) (database : String) :
    (Bootstrap.run credential database).AsksOnly fun call =>
      call = .ensureUser credential ∨ call = .enablePartitioning database := by
  refine (Program.asksOnly_ask (.inl rfl)).bind fun user => ?_
  cases user with
  | error e => trivial
  | ok outcome =>
    refine (Program.asksOnly_ask (.inr rfl)).bind fun partitioning => ?_
    cases partitioning with
    | error e => trivial
    | ok outcome' => trivial

namespace Verify

/-- A check only looks. -/
def Looks (call : Call) : Prop :=
  ∃ name, call = .countDocuments name ∨ call = .listIndexFields name

theorem asksOnly_checkDataset (files : FileTree) (dataset : Dataset) :
    (checkDataset files dataset).AsksOnly Looks := by
  refine (Program.asksOnly_ask ⟨dataset.name, .inl rfl⟩).bind fun counted => ?_
  cases fatal? counted with
  | some e => trivial
  | none =>
    refine (Program.asksOnly_ask ⟨dataset.name, .inr rfl⟩).bind fun listed => ?_
    cases fatal? listed with
    | some e => trivial
    | none => trivial

theorem asksOnly_checkDatasets (files : FileTree) (datasets : List Dataset) :
    (checkDatasets files datasets).AsksOnly Looks := by
  induction datasets with
  | nil => trivial
  | cons dataset rest ih =>
    refine (asksOnly_checkDataset files dataset).bind fun checked => ?_
    cases checked with
    | error e => trivial
    | ok check =>
      refine ih.bind fun others => ?_
      cases others with
      | error e => trivial
      | ok checks => trivial

theorem asksOnly_run (catalog : Catalog) (files : FileTree) :
    (run catalog files).AsksOnly Looks := by
  refine (asksOnly_checkDatasets files catalog).bind fun checked => ?_
  cases checked with
  | error e => trivial
  | ok checks => trivial

end Verify

namespace Provision

open Verify

section Run

variable {σ : Type} (handler : CallHandler σ) (plan : Plan) (files : FileTree)

/-- The walk over the datasets calls about their collections only. -/
theorem collection?_of_provisionDatasets (datasets : List Dataset) (s : σ) {call : Call}
    {answer : call.Answer}
    (h : .called call answer ∈ ((provisionDatasets plan files datasets).run handler s).steps) :
    ∃ dataset ∈ datasets, call.collection? = some dataset.name := by
  obtain ⟨dataset, hdataset, block, ended, hblock, hmem⟩ :=
    (walk_provisionDatasets handler plan files datasets s).exists_block h
  exact ⟨dataset, hdataset, hblock.callsOn call answer hmem⟩

theorem close_not_mem_calls (s : σ) : .close ∉ ((run plan files).run handler s).calls := by
  intro hclose
  obtain ⟨answer, hstep⟩ := Program.mem_calls.1 hclose
  rw [run_run] at hstep
  -- enabling partitioning is not closing, and the walk calls about collections
  cases hfatal : fatal? (handler (.enablePartitioning plan.database) s).1 with
  | some e =>
    simp only [hfatal] at hstep
    cases List.mem_singleton.1 hstep
  | none =>
    simp only [hfatal] at hstep
    rcases List.mem_cons.1 hstep with heq | hstep
    · cases heq
    · obtain ⟨dataset, -, habout⟩ := collection?_of_provisionDatasets handler plan files _ _ hstep
      cases habout

/-! ### Announcements -/

/-- Datasets that finish one after the other, with their reports: none of them ends with a fatal
error, and an error it does end with is in its report. -/
inductive Finishes : σ → List Dataset → List DatasetReport → σ → Prop where
  | nil (s : σ) : Finishes s [] [] s
  | cons {dataset : Dataset} {rest : List Dataset} {reports : List DatasetReport} {s t : σ}
      {first : Program.Run Call Call.Answer DatasetReport σ (Except Error Unit × DatasetReport)}
      (h : (provisionDataset plan files dataset).run handler s = first)
      (hfatal : fatal? first.value.1 = none) (hrest : Finishes first.state rest reports t) :
      Finishes s (dataset :: rest) (announced first.value :: reports) t

/-- What a walk over datasets comes to, and the reports that it announces. -/
inductive Reported (s : σ) :
    List Dataset → Except Error (List DatasetReport) → List DatasetReport → Prop where
  | completed {datasets : List Dataset} {reports : List DatasetReport} {t : σ}
      (h : Finishes handler plan files s datasets reports t) :
      Reported s datasets (.ok reports) reports
  /-- A dataset ended the walk: those before it finished. -/
  | aborted {before : List Dataset} {dataset : Dataset} {reports : List DatasetReport} {t : σ}
      {e : Error} (after : List Dataset) (h : Finishes handler plan files s before reports t)
      (hstop : fatal? ((provisionDataset plan files dataset).run handler t).value.1 = some e) :
      Reported s (before ++ dataset :: after) (.error e) reports

/-- What a run comes to, and the reports that it announces. -/
inductive Announces (s : σ) : Except Error Report → List DatasetReport → Prop where
  /-- Partitioning could not be enabled, and the store is lost. -/
  | disabled {e : Error} {t : σ}
      (h : handler (.enablePartitioning plan.database) s = (.error e, t))
      (hfatal : e.isFatal = true) : Announces s (.error e) []
  | walked {opening : Except Error Outcome} {t : σ} {value : Except Error (List DatasetReport)}
      {reports : List DatasetReport}
      (h : handler (.enablePartitioning plan.database) s = (opening, t))
      (hopening : fatal? opening = none)
      (hwalk : Reported handler plan files t plan.catalog value reports) :
      Announces s (value.map Report.mk) reports

variable {handler plan files}

/-- The reports are those of the datasets, by name. -/
theorem Finishes.names {s t : σ} {datasets : List Dataset} {reports : List DatasetReport}
    (h : Finishes handler plan files s datasets reports t) :
    reports.map DatasetReport.name = datasets.map Dataset.name := by
  induction h with
  | nil s => rfl
  | @cons dataset rest reports s t first h hfatal hrest ih =>
    rw [List.map_cons, List.map_cons, ih, ← name_announced handler plan files dataset s, h]

/-- A dataset that finishes is reported before the others. -/
theorem Reported.cons {dataset : Dataset} {rest : List Dataset} {s : σ}
    {first : Program.Run Call Call.Answer DatasetReport σ (Except Error Unit × DatasetReport)}
    {value : Except Error (List DatasetReport)} {reports : List DatasetReport}
    (hfirst : (provisionDataset plan files dataset).run handler s = first)
    (hfatal : fatal? first.value.1 = none)
    (h : Reported handler plan files first.state rest value reports) :
    Reported handler plan files s (dataset :: rest) (value.map (announced first.value :: ·))
      (announced first.value :: reports) := by
  cases h with
  | completed hfinished => exact .completed (.cons hfirst hfatal hfinished)
  | aborted after hfinished hstop => exact .aborted after (.cons hfirst hfatal hfinished) hstop

/-- **A walk** announces the reports of the datasets that finish. -/
theorem reported_provisionDatasets (datasets : List Dataset) (s : σ) :
    Reported handler plan files s datasets
      ((provisionDatasets plan files datasets).run handler s).value
      ((provisionDatasets plan files datasets).run handler s).events := by
  induction datasets generalizing s with
  | nil =>
    rw [run_provisionDatasets_nil]
    exact .completed (.nil s)
  | cons dataset rest ih =>
    have hsilent := events_provisionDataset handler plan files dataset s
    rw [run_provisionDatasets_cons]
    generalize hfirst : (provisionDataset plan files dataset).run handler s = first at hsilent ⊢
    cases hfatal : fatal? first.value.1 with
    | some e =>
      -- the first dataset ends the walk, and nothing finished before it
      have hevents : Program.Run.events (⟨.error e, first.steps, first.state⟩ :
          Program.Run Call Call.Answer DatasetReport σ (Except Error (List DatasetReport))) = [] :=
        hsilent
      simp only [hfatal, hevents]
      change Reported handler plan files s ([] ++ dataset :: rest) (.error e) []
      exact .aborted rest (.nil s) (hfirst ▸ hfatal)
    | none =>
      simp only [hfatal, Program.Run.events] at hsilent ⊢
      rw [List.filterMap_append, hsilent, List.nil_append, List.filterMap_cons]
      exact .cons hfirst hfatal (ih first.state)

/-- **A run** announces the reports of the datasets that finish. -/
theorem announces_run (s : σ) :
    Announces handler plan files s ((run plan files).run handler s).value
      ((run plan files).run handler s).events := by
  rw [run_run]
  generalize hopening : handler (.enablePartitioning plan.database) s = opening
  cases hfatal : fatal? opening.1 with
  | some e =>
    obtain ⟨herror, hisFatal⟩ := fatal?_eq_some_iff.1 hfatal
    simp only [hfatal]
    exact .disabled (hopening.trans (Prod.ext herror rfl)) hisFatal
  | none =>
    simp only [hfatal, Program.Run.events, List.filterMap_cons]
    exact .walked hopening hfatal (reported_provisionDatasets plan.catalog opening.2)

/-- The announced reports are those of the first datasets of the catalog. -/
theorem Announces.names_isPrefix {s : σ} {value : Except Error Report}
    {reports : List DatasetReport} (h : Announces handler plan files s value reports) :
    reports.map DatasetReport.name <+: plan.catalog.map Dataset.name := by
  cases h with
  | disabled h hfatal => exact List.nil_prefix
  | walked h hopening hwalk =>
    generalize plan.catalog = datasets at hwalk
    cases hwalk with
    | completed hfinished => exact hfinished.names ▸ List.prefix_rfl
    | aborted after hfinished hstop =>
      rw [hfinished.names, List.map_append]
      exact List.prefix_append _ _

end Run

/-- **Connections are released, and progress is announced once.**  Whatever the store and whatever
it answers, a session that cannot connect asks for nothing, and one that can closes the connection
exactly once, after everything else, and comes to what is done inside: a provisioning, a bootstrap
or a verification, ended well or not.  A provisioning announces exactly the reports of the datasets
that finished, in the order of the catalog. -/
theorem released_of_session {σ : Type} (backend : Backend σ) (settings : StoreSettings) (s : σ) :
    (∀ plan files, Released backend settings (run plan files) s ∧
        ∀ t, backend.connect settings s = (.ok (), t) →
          let session := backend.session settings (run plan files) s
          Announces backend.handle plan files t session.value session.events ∧
            session.events.map DatasetReport.name <+: plan.catalog.map Dataset.name) ∧
      (∀ credential database,
        Released backend settings (Bootstrap.run credential database) s) ∧
      ∀ catalog files, Released backend settings (Verify.run catalog files) s := by
  refine ⟨fun plan files => ⟨?_, fun t hconnect => ?_⟩, fun credential database => ?_,
    fun catalog files => ?_⟩
  · exact released_of_not_mem (close_not_mem_calls backend.handle plan files)
  · have hannounces := @announces_run _ backend.handle plan files t
    have hevents : (backend.session settings (run plan files) s).events =
        ((run plan files).run backend.handle t).events := by
      rw [session_of_connect hconnect, run_closing]
      simp only [Program.Run.events, List.filterMap_append, List.filterMap_cons,
        List.filterMap_nil, List.append_nil]
    have hvalue : (backend.session settings (run plan files) s).value =
        ((run plan files).run backend.handle t).value := by
      rw [session_of_connect hconnect, run_closing]
    simp only [hvalue, hevents]
    exact ⟨hannounces, hannounces.names_isPrefix⟩
  · refine released_of_not_mem fun t hclose => ?_
    rcases (Bootstrap.asksOnly_run credential database).of_mem_calls hclose with heq | heq
    · cases heq
    · cases heq
  · refine released_of_not_mem fun t hclose => ?_
    obtain ⟨name, heq | heq⟩ := (Verify.asksOnly_run catalog files).of_mem_calls hclose
    · cases heq
    · cases heq

/-- The second dataset loses the store: the first is announced, and the connection is closed all the
same. -/
theorem released_of_session_lost :
    let backend := MemoryStore.backend true
    let s := MemoryStore.empty.inject "partition_collection" "events" .unreachable
    let plan := Plan.ofSettings .empty sampleSettings
    let session := backend.session sampleSettings.store (run plan sampleFiles) s
    Announces backend.handle plan sampleFiles s session.value session.events ∧
      session.value = .error (.unreachable "partition_collection"
        "connection lost during partition_collection on events") ∧
      session.events.map DatasetReport.name = ["stations"] ∧
      session.calls.getLast? = some .close ∧ session.state.closed = 1 := by
  intro backend s plan session
  obtain ⟨hprovisioning, -, -⟩ := released_of_session backend sampleSettings.store s
  obtain ⟨-, hannounces⟩ := hprovisioning plan sampleFiles
  obtain ⟨hannounced, -⟩ := hannounces s rfl
  exact ⟨hannounced, by decide +kernel⟩

end Provision

end BulkProvision
