import BulkProvision.Proofs.CallOrder
import BulkProvision.Proofs.MemoryRun
import BulkProvision.Proofs.NaNCount

/-!
# Every NaN is reported

The report of a dataset gets the NaNs of its source when the source has loaded, before the first
call that could fail after it, and nothing later writes to that figure.  So whatever the store
answers, the report of a dataset whose source loaded has the NaNs of the loaded records
(`ReportsNaNs`), one dataset after the other (`Tallied`).
-/

namespace BulkProvision

namespace Provision

open Store Verify

section Reports

variable (plan : Plan) (files : FileTree) (dataset : Dataset)

/-- The collection of a dataset is partitioned in these steps. -/
def Partitioned (steps : List StoreStep) : Prop :=
  ∃ outcome, .called (.partitionCollection dataset.name dataset.shardKey .hashed) (.ok outcome) ∈
    steps

/-- The source of a dataset loads in its block: the collection is partitioned, which is the last
call before the source is read, and the source loads. -/
def LoadsIn (block : List StoreStep) (loaded : Source.Loaded) : Prop :=
  Partitioned dataset block ∧
    ∃ schema, plan.registry.find dataset.name = .ok schema ∧
      Source.loadDataset files plan.rules dataset schema = .ok loaded

/-- The figure of a report against the records of its dataset. -/
structure ReportsNaNs (block : List StoreStep) (report : DatasetReport) : Prop where
  loaded : ∀ loaded, LoadsIn plan files dataset block loaded →
    report.unparseable = Source.nanFields loaded.records
  unloaded : (∀ loaded, ¬ LoadsIn plan files dataset block loaded) → report.unparseable = 0

/-- The steps of the work on datasets in order, and the reports that are announced in them. -/
inductive Tallied : List Dataset → List StoreStep → List DatasetReport → Prop where
  | nil : Tallied [] [] []
  /-- However a dataset ended, its report has its NaNs. -/
  | reported {dataset : Dataset} {rest : List Dataset} {block steps : List StoreStep}
      {ended : Except Error Unit} {report : DatasetReport} {reports : List DatasetReport}
      (hblock : Block plan files dataset block ended) (hname : report.name = dataset.name)
      (herror : report.error = error? ended) (hnans : ReportsNaNs plan files dataset block report)
      (hrest : Tallied rest steps reports) :
      Tallied (dataset :: rest) (block ++ .emitted report :: steps) (report :: reports)
  /-- A fatal error ends the walk, and its dataset is not reported. -/
  | aborted {dataset : Dataset} {block : List StoreStep} {e : Error} (rest : List Dataset)
      (hblock : Block plan files dataset block (.error e)) (hfatal : e.isFatal = true) :
      Tallied (dataset :: rest) block []

end Reports

/-! ### The figure and the stages -/

section Stages

variable {σ : Type} {handler : CallHandler σ} {plan : Plan} {files : FileTree} {dataset : Dataset}

theorem aside_unparseable : Aside DatasetReport.unparseable :=
  ⟨fun _ _ => rfl, fun _ _ => rfl, fun _ _ => rfl, fun _ _ => rfl⟩

/-- A replacement reports the NaNs that were counted, wherever it stops, and so does what follows
it. -/
theorem unparseable_replaceDocuments (name : String) (loaded : Source.Loaded)
    (fields : List String) (r : DatasetReport) (s : σ) :
    ((replaceDocuments name loaded >>= fun _ => buildIndexes name fields).perform handler r
      s).value.2.unparseable = loaded.coercion.unparseable := by
  have hreplace : ((replaceDocuments name loaded).perform handler r s).value.2.unparseable =
      loaded.coercion.unparseable := by
    rw [replaceDocuments_eq, Stage.perform_bind_ok handler rfl]
    exact keepsPart_exchangeDocuments aside_unparseable name loaded _ _
  rw [Stage.perform_bind]
  generalize (replaceDocuments name loaded).perform handler r s = first at hreplace ⊢
  rcases first with ⟨⟨e | ⟨⟩, r'⟩, steps, t⟩
  · exact hreplace
  · exact (keepsPart_buildIndexes aside_unparseable name fields r' t).trans hreplace

/-- Partitioning is one call, and its error stops the dataset. -/
theorem ensurePartitioning_cases (handler : CallHandler σ) (dataset : Dataset) (r : DatasetReport)
    (s : σ) :
    let run := (ensurePartitioning dataset).perform handler r s
    let call := Call.partitionCollection dataset.name dataset.shardKey .hashed
    (∃ e, run.value = (.error e, r) ∧ run.steps = [.called call (.error e)]) ∨
      ∃ outcome r', run.value = (.ok (), r') ∧ r'.unparseable = r.unparseable ∧
        run.steps = [.called call (.ok outcome)] := by
  intro run call
  obtain ⟨answer, t, hask⟩ : ∃ (answer : Except Error Outcome) (t : σ),
      (Program.ask call).run handler s = ⟨answer, [.called call answer], t⟩ := ⟨_, _, rfl⟩
  have hrun : run = (Stage.lift (Program.ask call) >>= fun outcome =>
    Stage.note outcome.note).perform handler r s := rfl
  rw [hrun, Stage.perform_bind, Stage.perform_lift, hask]
  cases answer with
  | error e => exact .inl ⟨e, rfl, rfl⟩
  | ok outcome => exact .inr ⟨outcome, _, rfl, rfl, rfl⟩

/-- What follows the creation reports the NaNs of the source where the collection is partitioned
and the source loads, and leaves the figure alone everywhere else. -/
theorem unparseable_afterCreation (handler : CallHandler σ) (dataset : Dataset)
    (source : Except Error Source.Loaded) (r : DatasetReport) (s : σ) :
    let run := (afterCreation dataset source).perform handler r s
    (Partitioned dataset run.steps ∧ ∃ loaded, source = .ok loaded ∧
        run.value.2.unparseable = loaded.coercion.unparseable) ∨
      (¬ Partitioned dataset run.steps ∨ ∃ e, source = .error e) ∧
        run.value.2.unparseable = r.unparseable := by
  intro run
  have hrun : run = (ensurePartitioning dataset >>= fun _ =>
    provisionStages.liftExcept source >>= fun loaded =>
      replaceDocuments dataset.name loaded >>= fun _ =>
        buildIndexes dataset.name dataset.indexFields).perform handler r s := rfl
  rw [hrun]
  obtain ⟨e, hvalue, hsteps⟩ | ⟨outcome, r', hvalue, hr', hsteps⟩ :=
    ensurePartitioning_cases handler dataset r s
  · rw [Stage.perform_bind_error handler hvalue]
    refine .inr ⟨.inl ?_, rfl⟩
    rintro ⟨outcome, hmem⟩
    rw [hsteps, List.mem_singleton] at hmem
    cases hmem
  · rw [Stage.perform_bind_ok handler hvalue]
    cases source with
    | error e => exact .inr ⟨.inr ⟨e, rfl⟩, hr'⟩
    | ok loaded =>
      rw [Stage.liftExcept_ok_bind]
      refine .inl ⟨⟨outcome, ?_⟩, loaded, rfl, unparseable_replaceDocuments ..⟩
      exact List.mem_append_left _ (hsteps ▸ List.mem_cons_self)

/-- Creation asks for no partitioning. -/
theorem not_partitioned_ensureCollection (handler : CallHandler σ) (dataset : Dataset)
    (schema : Schema) (r : DatasetReport) (s : σ) :
    ¬ Partitioned dataset ((ensureCollection dataset.name schema).perform handler r s).steps := by
  rintro ⟨outcome, hmem⟩
  obtain ⟨-, hasked⟩ := ensureCollection_asked handler dataset.name schema r s
  obtain ⟨call, answer, hstep, hcall⟩ := hasked.mem hmem
  cases hstep
  split at hcall <;> simp at hcall

theorem partitioned_append {steps₁ steps₂ : List StoreStep} :
    Partitioned dataset (steps₁ ++ steps₂) ↔
      Partitioned dataset steps₁ ∨ Partitioned dataset steps₂ := by
  simp only [Partitioned, List.mem_append, exists_or]

/-- **The report of a dataset has the NaNs of its source**, whatever the store answers. -/
theorem reportsNaNs_provisionDataset (handler : CallHandler σ) (plan : Plan) (files : FileTree)
    (dataset : Dataset) (s : σ) :
    let run := (provisionDataset plan files dataset).run handler s
    ReportsNaNs plan files dataset run.steps run.value.2 := by
  intro run
  cases hschema : plan.registry.find dataset.name with
  | error e =>
    have hrun : run = _ := run_provisionDataset_of_error handler hschema files s
    rw [hrun]
    refine ⟨fun loaded hloads => ?_, fun _ => rfl⟩
    obtain ⟨-, schema, hfind, -⟩ := hloads
    cases hschema.symm.trans hfind
  | ok schema =>
    have hrun : run = _ := run_provisionDataset_of_ok handler hschema files s
    have hnone := not_partitioned_ensureCollection handler dataset schema (.start dataset.name) s
    have hstart : ((ensureCollection dataset.name schema).perform handler (.start dataset.name)
        s).value.2.unparseable = 0 := keepsPart_ensureCollection aside_unparseable _ _ _ _
    rw [hrun, Stage.perform_bind]
    generalize (ensureCollection dataset.name schema).perform handler _ s = first at hnone hstart ⊢
    rcases first with ⟨⟨e | ⟨⟩, r'⟩, steps, t⟩
    · exact ⟨fun loaded hloads => absurd hloads.1 hnone, fun _ => hstart⟩
    · dsimp only
      have hafter := unparseable_afterCreation handler dataset
        (Source.loadDataset files plan.rules dataset schema) r' t
      generalize (afterCreation dataset _).perform handler r' t = second at hafter ⊢
      refine ⟨fun loaded hloads => ?_, fun hno => ?_⟩
      · -- the source is read once, so what loads is what was loaded
        obtain ⟨hpartitioned, schema', hfind, hload⟩ := hloads
        cases hschema.symm.trans hfind
        have hsecond := (partitioned_append.1 hpartitioned).resolve_left hnone
        rw [hload] at hafter
        obtain ⟨-, loaded', hloaded, hcount⟩ | ⟨hstopped | ⟨e, he⟩, -⟩ := hafter
        · cases hloaded
          exact hcount.trans (Source.counted_of_loadDataset hload).unparseable
        · exact absurd hsecond hstopped
        · cases he
      · obtain ⟨hpartitioned, loaded, hload, -⟩ | ⟨-, hkept⟩ := hafter
        · refine absurd ?_ (hno loaded)
          exact ⟨partitioned_append.2 (.inr hpartitioned), schema, hschema, hload⟩
        · exact hkept.trans hstart

theorem ReportsNaNs.announced {block : List StoreStep}
    {result : Except Error Unit × DatasetReport}
    (h : ReportsNaNs plan files dataset block result.2) :
    ReportsNaNs plan files dataset block (announced result) := by
  rcases result with ⟨e | ⟨⟩, report⟩
  · exact ⟨h.loaded, h.unloaded⟩
  · exact h

/-- The report of a dataset has the error that the dataset ended with. -/
theorem error_announced (handler : CallHandler σ) (plan : Plan) (files : FileTree)
    (dataset : Dataset) (s : σ) :
    let run := (provisionDataset plan files dataset).run handler s
    (announced run.value).error = error? run.value.1 := by
  intro run
  have htitle := (keepsTitle_provisionStages handler plan files dataset (.start dataset.name) s).2
  rw [← run_provisionDataset] at htitle
  change run.value.2.error = none at htitle
  rcases hvalue : run.value with ⟨e | ⟨⟩, report⟩
  · rfl
  · rw [hvalue] at htitle
    exact htitle

/-- **A walk** tallies the reports that it announces, and comes to just these. -/
theorem tallied_provisionDatasets (handler : CallHandler σ) (plan : Plan) (files : FileTree)
    (datasets : List Dataset) (s : σ) :
    let run := (provisionDatasets plan files datasets).run handler s
    Tallied plan files datasets run.steps run.events ∧
      ∀ reports, run.value = .ok reports → reports = run.events := by
  induction datasets generalizing s with
  | nil =>
    rw [run_provisionDatasets_nil]
    refine ⟨.nil, ?_⟩
    rintro reports ⟨⟩
    rfl
  | cons dataset rest ih =>
    have hblock := block_provisionDataset handler plan files dataset s
    have hnans := (reportsNaNs_provisionDataset handler plan files dataset s).announced
    have hname := name_announced handler plan files dataset s
    have hsilent := events_provisionDataset handler plan files dataset s
    have herror := error_announced handler plan files dataset s
    rw [run_provisionDatasets_cons]
    generalize (provisionDataset plan files dataset).run handler s = first at *
    cases hfatal : fatal? first.value.1 with
    | some e =>
      obtain ⟨hended, hisFatal⟩ := fatal?_eq_some_iff.1 hfatal
      have hevents : Program.Run.events (⟨.error e, first.steps, first.state⟩ :
          Program.Run Call Call.Answer DatasetReport σ (Except Error (List DatasetReport))) = [] :=
        hsilent
      simp only [hfatal, hevents]
      exact ⟨.aborted rest (hended ▸ hblock) hisFatal, fun reports h => by cases h⟩
    | none =>
      obtain ⟨htallied, hreports⟩ := ih first.state
      simp only [hfatal, Program.Run.events] at hsilent htallied hreports ⊢
      rw [List.filterMap_append, hsilent, List.nil_append, List.filterMap_cons]
      refine ⟨.reported hblock hname herror hnans htallied, fun reports h => ?_⟩
      cases hvalue : ((provisionDatasets plan files rest).run handler first.state).value with
      | error e =>
        rw [hvalue] at h
        cases h
      | ok others =>
        rw [hvalue] at h
        cases h
        rw [hreports others hvalue]

end Stages

/-- **Every NaN is counted and reported.**  A load that succeeds counts the fields of its records
that hold a NaN, and those of its source that became numbers.  A run over any store announces one
report for each dataset that it finished, in order, and comes to just these reports; the report of a
dataset whose source loaded has the number of fields that hold a NaN, whatever failed after that. -/
theorem tallied_of_run {σ : Type} (plan : Plan) (files : FileTree) (handler : CallHandler σ)
    (s : σ) :
    (∀ rules dataset schema loaded,
        Source.loadDataset files rules dataset schema = .ok loaded →
          Source.Counted files rules dataset.sourcePath loaded) ∧
      let run := (Provision.run plan files).run handler s
      (∃ (opening : Except Error Outcome) (steps : List StoreStep),
          run.steps = .called (.enablePartitioning plan.database) opening :: steps ∧
            match fatal? opening with
            | some e => steps = [] ∧ run.value = .error e ∧ run.events = []
            | none => Tallied plan files plan.catalog steps run.events) ∧
        ∀ report, run.value = .ok report → report.datasets = run.events := by
  refine ⟨fun rules dataset schema loaded h => Source.counted_of_loadDataset h, ?_⟩
  intro run
  have hrun : run = _ := run_run handler plan files s
  generalize handler (.enablePartitioning plan.database) s = opening at hrun
  cases hfatal : fatal? opening.1 with
  | some e =>
    simp only [hfatal] at hrun
    rw [hrun]
    refine ⟨⟨opening.1, [], rfl, ?_⟩, fun report h => by cases h⟩
    simp only [hfatal]
    exact ⟨trivial, trivial, rfl⟩
  | none =>
    simp only [hfatal] at hrun
    obtain ⟨htallied, hreports⟩ :=
      tallied_provisionDatasets handler plan files plan.catalog opening.2
    have hevents : run.events =
        ((provisionDatasets plan files plan.catalog).run handler opening.2).events := by
      rw [hrun]
      rfl
    refine ⟨⟨opening.1, _, congrArg Program.Run.steps hrun, ?_⟩, fun report h => ?_⟩
    · simp only [hfatal, hevents]
      exact htallied
    · rw [hevents]
      rw [hrun] at h
      dsimp only at h
      cases hvalue : ((provisionDatasets plan files plan.catalog).run handler opening.2).value with
      | error e =>
        rw [hvalue] at h
        cases h
      | ok reports =>
        rw [hvalue] at h
        cases h
        exact hreports reports hvalue

/-- One record, with a temperature that is no number. -/
def gappyFiles : FileTree :=
  ⟨[(["data"], .directory),
    (["data", "stations.json"], .text
      ("[\x7b\"station_id\": \"S1\", \"date\": \"2024-01-01\", \"location\": \"Oslo\", " ++
        "\"temperature_c\": \"n/a\", \"wind_speed_kmh\": \"12.5 km/h\"\x7d]")),
    (["data", "events.json"], .text "[]")]⟩

/-- The NaN is counted beside the number, and reported although the record is refused. -/
theorem tallied_of_run_refused :
    let plan := Plan.ofSettings .empty sampleSettings
    let dataset : Dataset := ⟨"stations", "data/stations.json", ["date"], "station_id"⟩
    let run := (Provision.run plan gappyFiles).run MemoryStore.handle
      (MemoryStore.empty.inject "insert_many" "stations" .rejected)
    (∃ loaded, Source.loadDataset gappyFiles plan.rules dataset Schema.station = .ok loaded ∧
        Source.Counted gappyFiles plan.rules dataset.sourcePath loaded ∧
        loaded.coercion = ⟨1, 1⟩) ∧
      (∃ steps, Tallied plan gappyFiles plan.catalog steps run.events) ∧
      run.events.map (fun report => (report.unparseable, report.error.isSome)) =
        [(1, true), (0, false)] := by
  intro plan dataset run
  obtain ⟨hloads, ⟨opening, steps, hsteps, hwalk⟩, -⟩ := tallied_of_run plan gappyFiles
    MemoryStore.handle (MemoryStore.empty.inject "insert_many" "stations" .rejected)
  have hevents : run.events.map (fun report => (report.unparseable, report.error.isSome)) =
      [(1, true), (0, false)] := by
    decide +kernel
  refine ⟨?_, ⟨steps, ?_⟩, hevents⟩
  · have heval : (Source.loadDataset gappyFiles plan.rules dataset Schema.station).toOption.map
        (·.coercion) = some ⟨1, 1⟩ := by
      decide +kernel
    cases hload : Source.loadDataset gappyFiles plan.rules dataset Schema.station with
    | error e =>
      rw [hload] at heval
      cases heval
    | ok loaded =>
      rw [hload] at heval
      exact ⟨loaded, rfl, hloads _ _ _ _ hload, Option.some.inj heval⟩
  · cases hfatal : fatal? opening with
    | some e =>
      simp only [hfatal] at hwalk
      have hnone : run.events = [] := hwalk.2.2
      rw [hnone] at hevents
      cases hevents
    | none =>
      simp only [hfatal] at hwalk
      exact hwalk

end Provision

end BulkProvision
