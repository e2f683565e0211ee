import BulkProvision.Proofs.Acceptance
import BulkProvision.Proofs.Session
import Mathlib.Data.List.Nodup

/-!
# Settings make a coherent catalog

Three things are made of the configured datasets: the names that are checked, the catalog, which is
searched for the first dataset of a name, and the registry of the schemas by name.  Once the check
passes they agree about every name (`Catalog.Enrolled`).

The registry has a schema for each dataset of its catalog even where names are repeated.  So a run
never misses one, and an error in a report comes from outside: the store answered it in the work on
that dataset, or it is what is wrong with the source (`Provision.ReportedAfter.sourced`).
-/

namespace BulkProvision

theorem Program.mem_events {Op : Type} {Answer : Op → Type} {ε σ α : Type}
    {run : Program.Run Op Answer ε σ α} {event : ε} :
    event ∈ run.events ↔ .emitted event ∈ run.steps := by
  rw [Program.Run.events, List.mem_filterMap]
  constructor
  · rintro ⟨step, hstep, heq⟩
    cases step with
    | called op answer => cases heq
    | emitted event' => exact Option.some.inj heq ▸ hstep
  · exact fun hstep => ⟨_, hstep, rfl⟩

/-! ### Looking datasets up -/

namespace Catalog

variable {catalog : Catalog}

/-- Where names are distinct, the first dataset of a name is the one that has it. -/
theorem find_of_mem (hnames : (catalog.map Dataset.name).Nodup) {dataset : Dataset}
    (h : dataset ∈ catalog) : catalog.find dataset.name = .ok dataset := by
  rw [find]
  cases hfind : List.find? (fun d => decide (d.name = dataset.name)) catalog with
  | none =>
    rw [List.find?_eq_none] at hfind
    exact absurd (decide_eq_true rfl) (hfind dataset h)
  | some other =>
    have hname : other.name = dataset.name := by simpa using List.find?_some hfind
    rw [List.inj_on_of_nodup_map hnames (List.mem_of_find?_eq_some hfind) h hname]

theorem find_of_not_mem {name : String} (h : name ∉ catalog.map Dataset.name) :
    catalog.find name = .error (.unknownDataset name) := by
  have hfind : List.find? (fun d => decide (d.name = name)) catalog = none := by
    rw [List.find?_eq_none]
    intro dataset hmem hname
    exact h (List.mem_map.2 ⟨dataset, hmem, of_decide_eq_true hname⟩)
  rw [find, hfind]

theorem names_ofSettings (env : Environment) (settings : Settings) :
    (ofSettings env settings).map Dataset.name = settings.datasets.map DatasetEntry.name := by
  rw [ofSettings, List.map_map]
  rfl

end Catalog

namespace Registry

/-- The registry of a catalog holds a schema for its datasets only. -/
theorem find_of_not_mem {catalog : Catalog} {name : String}
    (h : name ∉ catalog.map Dataset.name) :
    (ofCatalog catalog).find name = .error (.unknownDataset name) := by
  have hget : (ofCatalog catalog).get? name = none := by
    rw [ofCatalog, NameMap.get?_ofList, Option.map_eq_none_iff, List.find?_eq_none]
    intro entry hentry hname
    obtain ⟨dataset, hmem, rfl⟩ := List.mem_map.1 (List.mem_reverse.1 hentry)
    exact h (List.mem_map.2 ⟨dataset, hmem, of_decide_eq_true hname⟩)
  rw [find, hget]

end Registry

/-! ### Where the errors of a run come from -/

namespace Provision

open Store Verify

/-- A store answered a call with this error. -/
def Answered (steps : List StoreStep) (e : Error) : Prop :=
  ∃ call answer, .called call answer ∈ steps ∧ answerError? call answer = some e

theorem Asked.answered {calls : List Call} {steps : List StoreStep} {ended : Except Error Unit}
    (h : Asked calls steps ended) {e : Error} (hended : ended = .error e) : Answered steps e := by
  induction h with
  | nil => cases hended
  | @stopped call answer e' rest hanswer =>
    cases hended
    exact ⟨call, answer, List.mem_singleton_self _, hanswer⟩
  | next _ _ ih =>
    obtain ⟨call, answer, hmem, herror⟩ := ih hended
    exact ⟨call, answer, List.mem_cons_of_mem _ hmem, herror⟩

section Walks

variable {plan : Plan} {files : FileTree}

/-- Where the schema is known, a dataset ends with the error of a call or of its source. -/
theorem Block.sourced {dataset : Dataset} {steps : List StoreStep} {ended : Except Error Unit}
    (h : Block plan files dataset steps ended) {schema : Schema}
    (hschema : plan.registry.find dataset.name = .ok schema) {e : Error}
    (hended : error? ended = some e) :
    Answered steps e ∨ Source.loadDataset files plan.rules dataset schema = .error e := by
  cases h with
  | unknown hnone => cases hnone.symm.trans hschema
  | @followed schema' source steps ended hschema' hsource hasked =>
    cases hschema'.symm.trans hschema
    cases ended with
    | error e' =>
      cases hended
      exact .inl (hasked.answered rfl)
    | ok _ =>
      cases source with
      | error e' =>
        cases hended
        exact .inr hsource
      | ok loaded => cases hended

variable (plan files) in
/-- A report was announced after the work on its dataset, which had these steps. -/
def ReportedAfter (datasets : List Dataset) (steps : List StoreStep) (entry : DatasetReport)
    (dataset : Dataset) (block : List StoreStep) : Prop :=
  dataset ∈ datasets ∧ entry.name = dataset.name ∧
    ∃ before after ended, steps = before ++ block ++ .emitted entry :: after ∧
      Block plan files dataset block ended ∧ entry.error = error? ended

/-- **The reports of a walk**, by induction on it: each has the error that the work on its dataset
ended with. -/
theorem Walk.exists_reportedAfter {datasets : List Dataset} {steps : List StoreStep}
    {result : Except Error (List DatasetReport)} (h : Walk plan files datasets steps result)
    {entry : DatasetReport} (hmem : .emitted entry ∈ steps) :
    ∃ dataset block, ReportedAfter plan files datasets steps entry dataset block := by
  induction h with
  | nil => cases hmem
  | @next dataset rest block steps ended report result hblock _ hname herror _ _ ih =>
    rcases List.mem_append.1 hmem with hmem | hmem
    · obtain ⟨call, answer, heq, -⟩ := hblock.mem hmem
      cases heq
    · rcases List.mem_cons.1 hmem with heq | hmem
      · cases heq
        exact ⟨dataset, block, List.mem_cons_self, hname, [], steps, ended, rfl, hblock, herror⟩
      · obtain ⟨d, inner, hd, hname', before, after, ended', hsteps, hinner⟩ := ih hmem
        refine ⟨d, inner, List.mem_cons_of_mem _ hd, hname',
          block ++ .emitted report :: before, after, ended', ?_, hinner⟩
        simp [hsteps]
  | aborted rest hblock _ _ =>
    obtain ⟨call, answer, heq, -⟩ := hblock.mem hmem
    cases heq

/-- Only a fatal error is what a walk comes to. -/
theorem Walk.isFatal {datasets : List Dataset} {steps : List StoreStep}
    {result : Except Error (List DatasetReport)} (h : Walk plan files datasets steps result)
    {e : Error} (hresult : result = .error e) : e.isFatal = true := by
  induction h with
  | nil => cases hresult
  | @next dataset rest block steps ended report result _ _ _ _ _ _ ih =>
    cases result with
    | error e' =>
      cases hresult
      exact ih rfl
    | ok reports => cases hresult
  | aborted rest _ hfatal _ =>
    cases hresult
    exact hfatal

end Walks

section Runs

variable {σ : Type} {plan : Plan} {files : FileTree} {handler : CallHandler σ} {s : σ}

/-- **The reports of a run** over any store. -/
theorem exists_reportedAfter_of_run {entry : DatasetReport}
    (hmem : entry ∈ ((run plan files).run handler s).events) :
    ∃ dataset block, ReportedAfter plan files plan.catalog ((run plan files).run handler s).steps
      entry dataset block := by
  rw [Program.mem_events] at hmem
  rw [run_run] at hmem ⊢
  generalize handler (.enablePartitioning plan.database) s = opening at hmem ⊢
  cases hfatal : fatal? opening.1 with
  | some e =>
    simp only [hfatal, List.mem_singleton] at hmem
    cases hmem
  | none =>
    simp only [hfatal] at hmem ⊢
    rcases List.mem_cons.1 hmem with heq | hmem
    · cases heq
    · have hwalk := walk_provisionDatasets handler plan files plan.catalog opening.2
      obtain ⟨dataset, block, hdataset, hname, before, after, ended, hsteps, hblock⟩ :=
        hwalk.exists_reportedAfter hmem
      refine ⟨dataset, block, hdataset, hname,
        .called (.enablePartitioning plan.database) opening.1 :: before, after, ended, ?_, hblock⟩
      simp [hsteps]

theorem isFatal_of_run {e : Error} (he : ((run plan files).run handler s).value = .error e) :
    e.isFatal = true := by
  rw [run_run] at he
  generalize handler (.enablePartitioning plan.database) s = opening at he
  cases hfatal : fatal? opening.1 with
  | some e' =>
    simp only [hfatal] at he
    cases he
    exact (fatal?_eq_some_iff.1 hfatal).2
  | none =>
    simp only [hfatal] at he
    have hwalk := walk_provisionDatasets handler plan files plan.catalog opening.2
    cases hvalue : ((provisionDatasets plan files plan.catalog).run handler opening.2).value with
    | error e' =>
      rw [hvalue] at he
      cases he
      exact hwalk.isFatal hvalue
    | ok reports =>
      rw [hvalue] at he
      cases he

/-- The reports that a run returns are those that it announced. -/
theorem datasets_of_run {report : Report}
    (h : ((run plan files).run handler s).value = .ok report) :
    report.datasets = ((run plan files).run handler s).events := by
  have hannounces : Announces handler plan files s ((run plan files).run handler s).value
      ((run plan files).run handler s).events := announces_run s
  rw [h] at hannounces
  generalize ((run plan files).run handler s).events = events at hannounces ⊢
  generalize hvalue : Except.ok report = value at hannounces
  cases hannounces with
  | disabled => cases hvalue
  | walked _ _ hwalk =>
    generalize plan.catalog = datasets at hwalk
    cases hwalk with
    | completed =>
      cases hvalue
      rfl
    | aborted => cases hvalue

/-- **The errors in the reports** of a run whose schemas are known: each was answered in the work on
the dataset, or its source did not load. -/
theorem ReportedAfter.sourced {steps block : List StoreStep} {entry : DatasetReport}
    {dataset : Dataset} (h : ReportedAfter plan files plan.catalog steps entry dataset block)
    {schema : Schema}
    (hschema : ∀ dataset ∈ plan.catalog, plan.registry.find dataset.name = .ok schema) {e : Error}
    (he : entry.error = some e) :
    Answered block e ∨ Source.loadDataset files plan.rules dataset schema = .error e := by
  obtain ⟨hdataset, -, before, after, ended, -, hblock, herror⟩ := h
  exact hblock.sourced (hschema dataset hdataset) (herror ▸ he)

end Runs

/-- A load fails for a fault of the source, whether or not its dataset is known. -/
theorem loadDataset_ne_unknownDataset {files : FileTree} {rules : List Coercion.Rule}
    {dataset : Dataset} {schema : Schema} {name : String} :
    Source.loadDataset files rules dataset schema ≠ .error (.unknownDataset name) := by
  intro h
  rw [Source.loadDataset] at h
  cases hload : Source.load files rules schema dataset.sourcePath <;> rw [hload] at h <;> cases h

end Provision

/-! ### From settings to a run -/

namespace Catalog

open Store Provision

/-- A configured dataset, as the catalog and the registry have it under its name. -/
structure Enrolled (env : Environment) (settings : Settings) (entry : DatasetEntry)
    (dataset : Dataset) : Prop where
  name : dataset.name = entry.name
  sourcePath : dataset.sourcePath = Path.resolve env settings.baseDir entry.source
  indexFields : dataset.indexFields = entry.indexFields
  shardKey : dataset.shardKey = entry.shardKey
  found : (ofSettings env settings).find entry.name = .ok dataset
  schema : (Registry.ofCatalog (ofSettings env settings)).find entry.name = .ok Schema.station

/-- What the check of settings comes to, and what is made of settings. -/
structure Coherent (env : Environment) (settings : Settings) : Prop where
  accepted_iff : settings.check = .ok () ↔ settings.Acceptable
  /-- All others are refused, with the message of the first check that fails. -/
  refused_iff : ∀ text, (∃ fault, settings.check = .error fault ∧
    (Settings.ConfigFault.refused fault).error = .invalidConfig text) ↔ settings.Refused text
  /-- Accepted settings give one dataset for each entry, in order, and it is found. -/
  enrolled : settings.check = .ok () →
    List.Forall₂ (Enrolled env settings) settings.datasets (ofSettings env settings)
  /-- No other dataset is. -/
  unknown : settings.check = .ok () → ∀ name ∉ settings.datasets.map DatasetEntry.name,
    (ofSettings env settings).find name = .error (.unknownDataset name) ∧
      (Registry.ofCatalog (ofSettings env settings)).find name = .error (.unknownDataset name)
  /-- Whether the settings are accepted or not, no run over any store ends with an unknown dataset,
  and where one is recorded, announced or returned, the store had answered so in the work on the
  very dataset. -/
  known : ∀ {σ : Type} (handler : CallHandler σ) (files : FileTree) (s : σ) (name : String),
    let plan := Plan.ofSettings env settings
    let run := (Provision.run plan files).run handler s
    run.value ≠ .error (.unknownDataset name) ∧
      (∀ entry ∈ run.events, entry.error = some (.unknownDataset name) →
        ∃ dataset block, ReportedAfter plan files plan.catalog run.steps entry dataset block ∧
          Answered block (.unknownDataset name)) ∧
      ∀ report, run.value = .ok report → report.datasets = run.events

/-- **Settings make a coherent catalog.** -/
theorem coherent_ofSettings (env : Environment) (settings : Settings) :
    Coherent env settings where
  accepted_iff := Settings.check_eq_ok_iff
  refused_iff text := by
    rw [← Settings.check_eq_error_iff]
    constructor
    · rintro ⟨fault, hcheck, herror⟩
      rw [hcheck]
      cases herror
      rfl
    · intro h
      cases hcheck : settings.check with
      | ok _ =>
        rw [hcheck] at h
        cases h
      | error fault =>
        rw [hcheck] at h
        cases h
        exact ⟨fault, rfl, rfl⟩
  enrolled hcheck := by
    have hnames : ((ofSettings env settings).map Dataset.name).Nodup := by
      rw [names_ofSettings]
      exact (Settings.check_eq_ok_iff.1 hcheck).distinct
    have henrolled (entry : DatasetEntry) (hentry : entry ∈ settings.datasets) :
        Enrolled env settings entry ⟨entry.name, Path.resolve env settings.baseDir entry.source,
          entry.indexFields, entry.shardKey⟩ :=
      have hmem := List.mem_map_of_mem hentry
      ⟨rfl, rfl, rfl, rfl, find_of_mem hnames hmem, Registry.find_ofCatalog hmem⟩
    rw [show ofSettings env settings = settings.datasets.map _ from rfl,
      List.forall₂_map_right_iff, List.forall₂_same]
    exact henrolled
  unknown _ name hname := by
    rw [← names_ofSettings env] at hname
    exact ⟨find_of_not_mem hname, Registry.find_of_not_mem hname⟩
  known handler files s name := by
    intro plan run
    have hschema : ∀ dataset ∈ plan.catalog,
        plan.registry.find dataset.name = .ok Schema.station :=
      fun _ hmem => Registry.find_ofCatalog hmem
    refine ⟨fun hvalue => ?_, fun entry hentry herror => ?_, fun report h => datasets_of_run h⟩
    · cases isFatal_of_run hvalue
    · obtain ⟨dataset, block, hreported⟩ := exists_reportedAfter_of_run hentry
      rcases hreported.sourced hschema herror with hanswered | hload
      · exact ⟨dataset, block, hreported, hanswered⟩
      · exact absurd hload loadDataset_ne_unknownDataset

/-- The standard settings with two more datasets: one has a name again, one has none. -/
def muddledSettings : Settings :=
  { Settings.standard with
    datasets := Settings.standardDatasets ++
      [⟨"weatherHistory", "other.json", [], "station_id"⟩, ⟨" ", "other.json", [], "station_id"⟩] }

/-- The standard settings are accepted; of two faulty entries the earlier one is named. -/
theorem coherent_ofSettings_standard :
    Settings.standard.check = .ok () ∧
      (∃ dataset, (ofSettings .empty Settings.standard).find "weatherHistory" = .ok dataset ∧
        dataset.indexFields = ["date", "location"]) ∧
      (ofSettings .empty Settings.standard).find "nope" = .error (.unknownDataset "nope") ∧
      muddledSettings.Refused "duplicate dataset 'weatherHistory'" := by
  have hcheck : Settings.standard.check = .ok () := by decide
  have hstandard := coherent_ofSettings .empty Settings.standard
  refine ⟨hcheck, ?_, (hstandard.unknown hcheck "nope" (by decide)).1, ?_⟩
  · obtain ⟨-, h⟩ := List.forall₂_cons.1 (hstandard.enrolled hcheck)
    obtain ⟨-, h⟩ := List.forall₂_cons.1 h
    obtain ⟨hhistory, -⟩ := List.forall₂_cons.1 h
    exact ⟨_, hhistory.found, hhistory.indexFields⟩
  · exact ((coherent_ofSettings .empty muddledSettings).refused_iff _).1
      ⟨.duplicateDataset "weatherHistory", by decide, by decide⟩

end Catalog

end BulkProvision
