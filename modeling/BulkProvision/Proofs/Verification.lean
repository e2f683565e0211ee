import BulkProvision.Proofs.Atomicity
import BulkProvision.Proofs.Refresh

/-!
# Verification after provisioning

Over a store in memory a verification changes nothing and checks every dataset by itself
(`run_checkDatasets`).  What provisioning reports without error is consistent, with the figures of
the report (`checkAt_of_refreshed`): the records that were loaded are as many as are counted in the
source, and every declared index is there.  A collection that does not exist is never consistent,
as its indexes cannot be listed (`isConsistent_of_missing`); and one whose creation was refused does
not exist (`get?_of_creationRefused`).

`verified_of_memoryRun` puts this together for a provisioning followed by a verification.
-/

namespace BulkProvision

open Store Provision

namespace Store

namespace MemoryStore

/-- No call changes the injected faults. -/
theorem faults_handle (call : Call) (s : MemoryStore) : (handle call s).2.faults = s.faults := by
  cases habout : call.collection? with
  | some name =>
    obtain ⟨answer, given, hanswer⟩ := handle_of_slot habout (s.slot name)
    rw [hanswer s rfl]
    exact (frame_given name s given).faults
  | none =>
    cases call with
    | enablePartitioning database =>
      obtain ⟨outcome, hhandle⟩ := s.handle_enablePartitioning database
      rw [hhandle]
    | ensureUser credential =>
      obtain ⟨outcome, users, hhandle⟩ := s.handle_ensureUser credential
      rw [hhandle]
    | close => rfl
    | _ => cases habout

/-- What is answered in a run is answered by a store with the faults that the run started with. -/
theorem exists_answered {ε α : Type} {p : StoreProgram ε α} {s : MemoryStore} {call : Call}
    {answer : call.Answer} (h : .called call answer ∈ (p.run handle s).steps) :
    ∃ t : MemoryStore, t.faults = s.faults ∧ (handle call t).1 = answer := by
  induction p generalizing s with
  | done value => cases h
  | emit event next ih =>
    rcases List.mem_cons.1 h with heq | h
    · cases heq
    · exact ih h
  | call op next ih =>
    rcases List.mem_cons.1 h with heq | h
    · cases heq
      exact ⟨s, rfl, rfl⟩
    · obtain ⟨t, hfaults, hanswer⟩ := ih _ h
      exact ⟨t, hfaults.trans (faults_handle op s), hanswer⟩

end MemoryStore

end Store

namespace Verify

/-! ### Checks -/

/-- The check of a dataset over a store in memory, or the error that ends the verification. -/
def checkOn (files : FileTree) (s : MemoryStore) (dataset : Dataset) : Except Error Check :=
  let counted := (MemoryStore.handle (.countDocuments dataset.name) s).1
  let listed := (MemoryStore.handle (.listIndexFields dataset.name) s).1
  match (fatal? counted).or (fatal? listed) with
  | some e => .error e
  | none => .ok (checkOf files dataset counted listed)

variable {files : FileTree} {s : MemoryStore} {dataset : Dataset}

theorem state_countDocuments (s : MemoryStore) (name : String) :
    (MemoryStore.handle (.countDocuments name) s).2 = s := by
  rw [MemoryStore.handle_countDocuments]
  split <;> rfl

theorem state_listIndexFields (s : MemoryStore) (name : String) :
    (MemoryStore.handle (.listIndexFields name) s).2 = s := by
  rw [MemoryStore.handle_listIndexFields]
  split
  · rfl
  · split <;> rfl

theorem run_checkDataset (files : FileTree) (s : MemoryStore) (dataset : Dataset) :
    ((checkDataset files dataset).run MemoryStore.handle s).value = checkOn files s dataset ∧
      ((checkDataset files dataset).run MemoryStore.handle s).state = s := by
  have hcount := state_countDocuments s dataset.name
  have hlist := state_listIndexFields s dataset.name
  simp only [checkDataset, Program.ask, Program.call_bind, Program.done_bind, Program.run_call,
    checkOn]
  cases hcounted : fatal? (MemoryStore.handle (.countDocuments dataset.name) s).1 with
  | some e => exact ⟨rfl, hcount⟩
  | none =>
    simp only [Program.run_call, hcount, Option.none_or]
    cases hlisted : fatal? (MemoryStore.handle (.listIndexFields dataset.name) s).1 with
    | some e => exact ⟨rfl, hlist⟩
    | none => exact ⟨rfl, hlist⟩

/-- **A verification** changes nothing and comes to the checks of all datasets, or to none. -/
theorem run_checkDatasets (files : FileTree) (s : MemoryStore) (datasets : List Dataset) :
    ((checkDatasets files datasets).run MemoryStore.handle s).state = s ∧
      ∀ checks, ((checkDatasets files datasets).run MemoryStore.handle s).value = .ok checks ↔
        List.Forall₂ (fun dataset check => checkOn files s dataset = .ok check) datasets
          checks := by
  induction datasets with
  | nil =>
    refine ⟨rfl, fun checks => ?_⟩
    cases checks with
    | nil => simp [checkDatasets]
    | cons check rest => simp [checkDatasets]
  | cons dataset rest ih =>
    obtain ⟨hfirst, hstate⟩ := run_checkDataset files s dataset
    obtain ⟨hothers, hchecks⟩ := ih
    simp only [checkDatasets, Program.run_bind]
    generalize (checkDataset files dataset).run MemoryStore.handle s = first at hfirst hstate ⊢
    rw [hfirst, hstate]
    cases hcheck : checkOn files s dataset with
    | error e =>
      refine ⟨rfl, fun checks => ?_⟩
      cases checks <;> simp [hcheck]
    | ok check =>
      simp only [Program.run_bind, hothers]
      cases hvalue : ((checkDatasets files rest).run MemoryStore.handle s).value with
      | error e =>
        refine ⟨rfl, fun checks => ?_⟩
        cases checks <;> simp [← hchecks, hvalue]
      | ok others =>
        refine ⟨rfl, fun checks => ?_⟩
        cases checks <;> simp [← hchecks, hvalue, hcheck]

/-! ### What a check finds -/

/-- A store that refuses to list the indexes of a collection makes it inconsistent. -/
theorem isConsistent_of_missing {check : Check}
    (hmissing : s.collections.get? dataset.name = none)
    (hcheck : checkOn files s dataset = .ok check) : check.isConsistent = false := by
  -- listing is refused, by a fault or because there is nothing to list
  obtain ⟨e, hlisted⟩ : ∃ e,
      (MemoryStore.handle (.listIndexFields dataset.name) s).1 = .error e := by
    rw [MemoryStore.handle_listIndexFields]
    cases (s.slot dataset.name).refusal? "list_indexes" dataset.name with
    | some e => exact ⟨e, rfl⟩
    | none =>
      have hnone : (s.slot dataset.name).collection? = none := hmissing
      rw [hnone]
      exact ⟨_, rfl⟩
  rw [checkOn] at hcheck
  split at hcheck
  · cases hcheck
  · cases hcheck
    simp [Check.isConsistent, checkOf, checkOf.refusal, hlisted]

/-- The check of a dataset where no fault is injected for counting and listing: a collection that
does not exist has no documents and no indexes to list. -/
def checkAt (files : FileTree) (s : MemoryStore) (dataset : Dataset) : Check :=
  checkOf files dataset (.ok (s.documents dataset.name).length)
    (match s.collections.get? dataset.name with
      | none => .error (MemoryStore.missing (.listIndexFields dataset.name))
      | some c => .ok c.indexes)

theorem checkOn_of_faultless (files : FileTree)
    (hcount : s.fault? "count_documents" dataset.name = none)
    (hlist : s.fault? "list_indexes" dataset.name = none) :
    checkOn files s dataset = .ok (checkAt files s dataset) := by
  have hcounted : (s.slot dataset.name).refusal? "count_documents" dataset.name = none :=
    Option.map_eq_none_iff.2 hcount
  have hlisted : (s.slot dataset.name).refusal? "list_indexes" dataset.name = none :=
    Option.map_eq_none_iff.2 hlist
  have hheld : (s.slot dataset.name).collection? = s.collections.get? dataset.name := rfl
  rw [checkOn, checkAt, MemoryStore.handle_countDocuments, MemoryStore.handle_listIndexFields,
    hcounted, hlisted, hheld]
  cases s.collections.get? dataset.name with
  | none => rfl
  | some c => rfl

/-- **What was refreshed is consistent**, with the figures of its entry. -/
theorem checkAt_of_refreshed {plan : Plan} {s₀ : MemoryStore} {entry : DatasetReport}
    (h : Refreshed plan files s₀ s dataset entry) :
    (checkAt files s dataset).isConsistent = true ∧
      (checkAt files s dataset).sourceRecords = some entry.inserted ∧
      (checkAt files s dataset).documents = entry.inserted := by
  obtain ⟨loaded, hload, hdocuments, hinserted, -⟩ := h.loaded
  have hsource : Source.countRecords files dataset = .ok loaded.records.length :=
    Source.countRecords_of_loadDataset hload
  -- a collection with a validator exists
  obtain ⟨c, hget, -⟩ := Option.bind_eq_some_iff.1 h.validator
  have hindexes : indexProblems c.indexes dataset.indexFields = [] := by
    have hall := h.indexes
    rw [MemoryStore.collection, hget, Option.getD_some] at hall
    rw [indexProblems, hall, List.map_eq_nil_iff, List.filter_eq_nil_iff]
    intro field hfield
    by_cases hpresent : field ∈ (s₀.collection dataset.name).indexes
    · simp [hpresent]
    · simp [hpresent, hfield]
  refine ⟨?_, ?_, ?_⟩
  · simp [Check.isConsistent, checkAt, checkOf, checkOf.refusal, countProblems, Except.toOption,
      hget, hsource, hdocuments, hindexes]
  · simp [checkAt, checkOf, Except.toOption, hsource, hinserted]
  · simp [checkAt, checkOf, Except.toOption, hdocuments, hinserted]

/-! ### Whole verifications -/

theorem name_of_checkOn {check : Check} (h : checkOn files s dataset = .ok check) :
    check.name = dataset.name := by
  rw [checkOn] at h
  split at h
  · cases h
  · cases h
    rfl

/-- A verification over a connection to a store in memory. -/
def memoryVerification (env : Environment) (settings : Settings) (files : FileTree)
    (s : MemoryStore) :
    Program.Run Call Call.Answer Empty MemoryStore (Except Error Report) :=
  (MemoryStore.backend true).session settings.store (run (Catalog.ofSettings env settings) files) s

/-- **A verification** comes to a report where every dataset comes to a check. -/
theorem memoryVerification_eq_ok_iff {env : Environment} {settings : Settings} {report : Report} :
    (memoryVerification env settings files s).value = .ok report ↔
      List.Forall₂ (fun dataset check => checkOn files s dataset = .ok check)
        (Catalog.ofSettings env settings) report.datasets := by
  obtain ⟨-, hchecks⟩ := run_checkDatasets files s (Catalog.ofSettings env settings)
  have hvalue : (memoryVerification env settings files s).value =
      ((checkDatasets files (Catalog.ofSettings env settings)).run
        MemoryStore.handle s).value.map Report.mk := by
    change ((closing (run (Catalog.ofSettings env settings) files)).run
      MemoryStore.handle s).value = _
    simp only [run_closing, run, Program.run_bind]
    rcases (checkDatasets files (Catalog.ofSettings env settings)).run MemoryStore.handle s with
      ⟨_ | checks, steps, t⟩
    · rfl
    · rfl
  rw [hvalue, ← hchecks]
  cases ((checkDatasets files (Catalog.ofSettings env settings)).run
    MemoryStore.handle s).value with
  | error e => simp [Except.map]
  | ok checks =>
    cases report
    simp [Except.map]

/-- Where no fault is injected for counting and listing, every dataset is checked. -/
theorem memoryVerification_of_faultless {env : Environment} {settings : Settings}
    (hfaultless : ∀ dataset ∈ Catalog.ofSettings env settings,
      s.fault? "count_documents" dataset.name = none ∧
        s.fault? "list_indexes" dataset.name = none) :
    (memoryVerification env settings files s).value =
      .ok ⟨(Catalog.ofSettings env settings).map (checkAt files s)⟩ := by
  rw [memoryVerification_eq_ok_iff, List.forall₂_map_right_iff, List.forall₂_same]
  intro dataset hdataset
  obtain ⟨hcount, hlist⟩ := hfaultless dataset hdataset
  exact checkOn_of_faultless files hcount hlist

end Verify

namespace Provision

open Verify

variable {env : Environment} {settings : Settings} {files : FileTree} {s : MemoryStore}

/-- Whether a step is a failed creation of a collection. -/
def refusesCreation (name : String) : StoreStep → Bool
  | .called (.createCollection n _ _) (.error _) => n = name
  | _ => false

/-- The store failed to create a collection in a run. -/
def CreationRefused (run : MemoryRun) (name : String) : Prop :=
  ∃ step ∈ run.steps, refusesCreation name step = true

instance (run : MemoryRun) (name : String) : Decidable (CreationRefused run name) :=
  List.decidableBEx _ _

theorem exists_called_of_refusesCreation {name : String} {step : StoreStep}
    (h : refusesCreation name step = true) :
    ∃ schema level e, step = .called (.createCollection name schema level) (.error e) := by
  unfold refusesCreation at h
  split at h
  · next n schema level e =>
    obtain rfl := of_decide_eq_true h
    exact ⟨schema, level, e, rfl⟩
  · cases h

/-- Creating a collection is refused only by a fault that was there before the run. -/
theorem fault?_of_creationRefused {name : String}
    (h : CreationRefused (memoryRun env settings files s) name) :
    (s.fault? "create_collection" name).isSome := by
  obtain ⟨step, hcalled, hstep⟩ := h
  obtain ⟨schema, level, e, rfl⟩ := exists_called_of_refusesCreation hstep
  obtain ⟨t, hfaults, hanswer⟩ := MemoryStore.exists_answered
    (p := closing (run (Plan.ofSettings env settings) files)) hcalled
  have hcause : MemoryStore.Cause t (.createCollection name schema level) e :=
    MemoryStore.cause_of_error (by rw [hanswer]; rfl)
  cases hcause with
  | injected habout hfault =>
    obtain rfl := Option.some.inj habout
    rw [MemoryStore.fault?, hfaults] at hfault
    exact Option.isSome_iff_exists.2 ⟨_, hfault⟩
  | objection _ hobjection =>
    cases hobjection with
    | missing hneeds => cases hneeds

/-- A collection that was not there and could not be created is not there after the run. -/
theorem get?_of_creationRefused (hnames : (settings.datasets.map DatasetEntry.name).Nodup)
    {dataset : Dataset} (hdataset : dataset ∈ Catalog.ofSettings env settings)
    (hmissing : s.collections.get? dataset.name = none)
    (hrefused : CreationRefused (memoryRun env settings files s) dataset.name) :
    (memoryRun env settings files s).state.collections.get? dataset.name = none := by
  obtain ⟨fault, hfault⟩ := Option.isSome_iff_exists.1 (fault?_of_creationRefused hrefused)
  have hcreate : (s.slot dataset.name).fault? "create_collection" = some fault := hfault
  have hobstacle : (goal env settings files dataset).obstacle (s.slot dataset.name) .untouched =
      some (fault.error "create_collection" dataset.name) := by
    rw [Goal.obstacle, Slot.refusal?, hcreate]
    rfl
  have hname : (goal env settings files dataset).name = dataset.name := rfl
  have hslot : (memoryRun env settings files s).state.slot dataset.name = s.slot dataset.name := by
    rcases (provisioned_memoryRun hnames).slot_cases hnames (List.mem_map_of_mem hdataset) with
      hkept | hcourse
    · exact hkept
    · rw [hname, Goal.course_untouched _ hobstacle] at hcourse
      exact hcourse
  exact (congrArg Slot.collection? hslot).trans hmissing

/-- A check bears out an entry of a report: what was provisioned without error is consistent, with
as many documents as the source has records and as were inserted. -/
structure Confirms (entry : DatasetReport) (check : Check) : Prop where
  name : check.name = entry.name
  consistent : entry.error = none → check.isConsistent = true
  sourceRecords : entry.error = none → check.sourceRecords = some entry.inserted
  documents : entry.error = none → check.documents = entry.inserted

/-- The checks of what a run left bear out its report. -/
theorem Provisioned.confirms {run : MemoryRun} (h : Provisioned env settings files s run)
    {report : Report} (hok : run.value = .ok report) :
    List.Forall₂ Confirms report.datasets
      ((Catalog.ofSettings env settings).map (checkAt files run.state)) := by
  have hcatalog : ∀ dataset ∈ Catalog.ofSettings env settings,
      dataset ∈ Catalog.ofSettings env settings := fun _ h => h
  rw [List.forall₂_map_right_iff]
  refine (((List.forall₂_and_left _ _).2 ⟨hcatalog, h.entries hok⟩).imp ?_).flip
  rintro dataset entry ⟨hdataset, hslot, hentry⟩
  have hname : entry.name = dataset.name :=
    (congrArg DatasetReport.name hentry :).trans (Goal.name_entry _ _)
  have hrefreshed (herror : entry.error = none) :
      Refreshed (Plan.ofSettings env settings) files s run.state dataset entry :=
    refreshed_of_slot (g := goal env settings files dataset) (Registry.find_ofCatalog hdataset)
      rfl rfl hslot hentry herror
  exact ⟨hname.symm, fun herror => (checkAt_of_refreshed (hrefreshed herror)).1,
    fun herror => (checkAt_of_refreshed (hrefreshed herror)).2.1,
    fun herror => (checkAt_of_refreshed (hrefreshed herror)).2.2⟩

/-- **Verification agrees with provisioning.**  A verification after a run that returned a report
comes to checks that bear out the report, and whatever became of a run and of the injected faults
since, a collection that it could not create is inconsistent whenever it is checked. -/
theorem verified_of_memoryRun (hnames : (settings.datasets.map DatasetEntry.name).Nodup) :
    let run := memoryRun env settings files s
    (∀ report, run.value = .ok report →
      (∀ dataset ∈ Catalog.ofSettings env settings,
        s.fault? "count_documents" dataset.name = none ∧
          s.fault? "list_indexes" dataset.name = none) →
      ∃ checks, (memoryVerification env settings files run.state).value = .ok checks ∧
        List.Forall₂ Confirms report.datasets checks.datasets) ∧
    ∀ dataset ∈ Catalog.ofSettings env settings,
      s.collections.get? dataset.name = none → CreationRefused run dataset.name →
      ∀ t : MemoryStore, t.collections = run.state.collections →
        ∀ checks, (memoryVerification env settings files t).value = .ok checks →
          List.Forall₂ (fun checked check => check.name = checked.name ∧
              (checked.name = dataset.name → check.isConsistent = false))
            (Catalog.ofSettings env settings) checks.datasets := by
  intro run
  have hrun : Provisioned env settings files s run := provisioned_memoryRun hnames
  refine ⟨fun report hok hfaultless => ?_,
    fun dataset hdataset hmissing hrefused t hkept checks hchecks => ?_⟩
  · have hfault (operation name : String) :
        run.state.fault? operation name = s.fault? operation name := by
      rw [MemoryStore.fault?, hrun.frame.faults]
      rfl
    refine ⟨_, memoryVerification_of_faultless fun dataset hdataset => ?_, hrun.confirms hok⟩
    obtain ⟨hcount, hlist⟩ := hfaultless dataset hdataset
    exact ⟨(hfault _ _).trans hcount, (hfault _ _).trans hlist⟩
  · have hgone : t.collections.get? dataset.name = none := by
      rw [hkept]
      exact get?_of_creationRefused hnames hdataset hmissing hrefused
    refine (memoryVerification_eq_ok_iff.1 hchecks).imp fun checked check hcheck => ?_
    exact ⟨name_of_checkOn hcheck, fun hsame => isConsistent_of_missing (hsame ▸ hgone) hcheck⟩

/-- A store that refuses to create one of the collections. -/
def refusingStore : MemoryStore := MemoryStore.empty.inject "create_collection" "events" .rejected

/-- The second dataset has an empty source; its collection is inconsistent because it is not
there. -/
theorem verified_of_memoryRun_refused :
    let run := memoryRun .empty sampleSettings sampleFiles refusingStore
    ∃ report checks, run.value = .ok report ∧
      (memoryVerification .empty sampleSettings sampleFiles run.state).value = .ok checks ∧
      report.datasets.map (fun entry => (entry.inserted, entry.error.isSome)) =
        [(1, false), (0, true)] ∧
      List.Forall₂ Confirms report.datasets checks.datasets ∧
      CreationRefused run "events" ∧
      List.Forall₂ (fun dataset check => check.name = dataset.name ∧
          (dataset.name = "events" → check.isConsistent = false))
        (Catalog.ofSettings .empty sampleSettings) checks.datasets := by
  intro run
  have hevents : ∃ dataset ∈ Catalog.ofSettings .empty sampleSettings, dataset.name = "events" := by
    decide +kernel
  obtain ⟨events, hmem, hname⟩ := hevents
  have heval : run.value.toOption.map (fun report => report.datasets.map fun entry =>
      (entry.inserted, entry.error.isSome)) = some [(1, false), (0, true)] := by
    decide +kernel
  have hrefused : CreationRefused run "events" := by decide +kernel
  obtain ⟨hagrees, hgone⟩ := @verified_of_memoryRun .empty sampleSettings sampleFiles refusingStore
    (by decide)
  cases hok : run.value with
  | error e =>
    rw [hok] at heval
    cases heval
  | ok report =>
    rw [hok] at heval
    obtain ⟨checks, hchecks, hconfirms⟩ := hagrees report hok fun _ _ => ⟨rfl, rfl⟩
    refine ⟨report, checks, rfl, hchecks, Option.some.inj heval, hconfirms, hrefused, ?_⟩
    have hinconsistent := hgone events hmem (hname ▸ by decide +kernel) (hname ▸ hrefused) run.state
      rfl checks hchecks
    rw [hname] at hinconsistent
    exact hinconsistent

end Provision

end BulkProvision
