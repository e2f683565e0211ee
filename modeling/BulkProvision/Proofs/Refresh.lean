import BulkProvision.Proofs.MemoryRun

/-!
# A full refresh

A run that returns a report has one entry for every dataset, in the order of the catalog, and
whatever the collection of a dataset was before, an entry without error says that it now holds
exactly the loaded records, under the validator, the shard key and the indexes that the catalog
asks for (`refreshed_of_memoryRun`).
-/

namespace BulkProvision

namespace Provision

open Store

/-- What an entry without error says about a dataset: `s` is the store that the run found and `t`
the store that it left. -/
structure Refreshed (plan : Plan) (files : FileTree) (s t : MemoryStore) (dataset : Dataset)
    (entry : DatasetReport) : Prop where
  schema : plan.registry.find dataset.name = .ok Schema.station
  /-- The collection holds the loaded records in order, and the figures are those of the load. -/
  loaded : ∃ loaded, Source.loadDataset files plan.rules dataset Schema.station = .ok loaded ∧
    t.documents dataset.name = loaded.records ∧
    entry.inserted = loaded.records.length ∧ entry.unparseable = loaded.coercion.unparseable
  conforming : ∀ record ∈ t.documents dataset.name, Schema.station.check record = .ok ()
  validator : t.validator? dataset.name = some (Schema.station, .strict)
  shardKey : t.shardKey? dataset.name = some (dataset.shardKey, .hashed)
  /-- The old indexes stay; a field that had none gets one, in order of first occurrence. -/
  indexes : (t.collection dataset.name).indexes =
    (s.collection dataset.name).indexes ++ (dataset.indexFields.filter fun field =>
      !(s.collection dataset.name).indexes.contains field).eraseDups
  deleted : entry.deleted = (s.documents dataset.name).length
  indexFields : entry.indexes = dataset.indexFields

/-- The collection of a dataset whose entry has no error. -/
theorem refreshed_of_slot {plan : Plan} {files : FileTree} {s t : MemoryStore} {g : Goal}
    {entry : DatasetReport} (hregistry : plan.registry.find g.dataset.name = .ok Schema.station)
    (hstation : g.schema = Schema.station)
    (hsource : g.source = Source.loadDataset files plan.rules g.dataset Schema.station)
    (hslot : t.slot g.name = g.slotAt (s.slot g.name) (g.course (s.slot g.name)).1)
    (hentry : entry.figures = g.entry s.slot) (herror : entry.error = none) :
    Refreshed plan files s t g.dataset entry := by
  -- an entry without error is that of a collection that passed every milestone
  have herror' : (g.entry s.slot).error = none := hentry ▸ herror
  obtain ⟨hcourse, hpassed, hfigures⟩ := g.course_of_error_entry s.slot herror'
  rw [hcourse] at hslot
  rw [hfigures] at hentry
  obtain ⟨loaded, hloaded, hrecords, hunparseable⟩ :=
    g.exists_loaded (hpassed .partitioned (by decide))
  have hleft : (t.slot g.dataset.name).collection? =
      some (g.collectionAt (s.slot g.name).collection .indexed) := congrArg Slot.collection? hslot
  obtain ⟨hcollection, hshard, hvalidator⟩ := MemoryStore.views_of_slot hleft
  have hdocuments : t.documents g.dataset.name = g.records := by
    rw [MemoryStore.documents, hcollection]
    rfl
  refine ⟨hregistry, ⟨loaded, ?_, ?_, ?_, ?_⟩, ?_, ?_, hshard, ?_, ?_, ?_⟩
  · rw [← hsource, hloaded]
  · rw [hdocuments, hrecords]
  · rw [← hrecords]
    exact (congrArg DatasetReport.inserted hentry :)
  · rw [← hunparseable]
    exact (congrArg DatasetReport.unparseable hentry :)
  · rw [hdocuments, ← hstation]
    exact g.check_of_mem_records
  · rw [hvalidator, ← hstation]
    rfl
  · rw [hcollection]
    exact addIndexes_eq _ _
  · exact (congrArg DatasetReport.deleted hentry :)
  · exact (congrArg DatasetReport.indexes hentry :)

variable {env : Environment} {settings : Settings} {files : FileTree} {s : MemoryStore}

/-- **A full refresh is exact.** -/
theorem refreshed_of_memoryRun (hnames : (settings.datasets.map DatasetEntry.name).Nodup)
    {report : Report} (hok : (memoryRun env settings files s).value = .ok report) :
    let t := (memoryRun env settings files s).state
    List.Forall₂ (fun dataset entry => entry.name = dataset.name ∧
        (entry.error = none → Refreshed (Plan.ofSettings env settings) files s t dataset entry))
      (Catalog.ofSettings env settings) report.datasets ∧
    (∀ name ∉ settings.datasets.map DatasetEntry.name,
      t.collections.get? name = s.collections.get? name) ∧
    t.users = s.users ∧ t.faults = s.faults ∧
    t.partitioned = s.partitioned.insert settings.store.database () ∧ t.closed = s.closed + 1 := by
  intro t
  have hrun : Provisioned env settings files s (memoryRun env settings files s) :=
    provisioned_memoryRun hnames
  have hframe := hrun.frame
  have hcatalog : ∀ dataset ∈ Catalog.ofSettings env settings,
      dataset ∈ Catalog.ofSettings env settings := fun _ h => h
  refine ⟨?_, fun name hname => ?_, hframe.users, hframe.faults, hframe.partitioned,
    hframe.closed⟩
  · refine ((List.forall₂_and_left _ _).2 ⟨hcatalog, hrun.entries hok⟩).imp ?_
    rintro dataset entry ⟨hdataset, hslot, hentry⟩
    have hname := congrArg DatasetReport.name hentry
    rw [Goal.name_entry] at hname
    refine ⟨hname, fun herror => ?_⟩
    exact refreshed_of_slot (g := goal env settings files dataset)
      (Registry.find_ofCatalog hdataset) rfl rfl hslot hentry herror
  · exact hrun.get?_of_not_mem hname

theorem refreshed_of_sample :
    ∃ report, (memoryRun .empty sampleSettings sampleFiles sampleStore).value = .ok report ∧
      report.datasets.map (fun entry => (entry.deleted, entry.inserted, entry.error.isSome)) =
        [(1, 1, false), (0, 0, true)] ∧
      List.Forall₂ (fun dataset entry => entry.name = dataset.name ∧
          (entry.error = none → Refreshed (Plan.ofSettings .empty sampleSettings) sampleFiles
            sampleStore (memoryRun .empty sampleSettings sampleFiles sampleStore).state dataset
            entry))
        (Catalog.ofSettings .empty sampleSettings) report.datasets := by
  have heval : (memoryRun .empty sampleSettings sampleFiles sampleStore).value.toOption.map
      (fun report => report.datasets.map fun entry =>
        (entry.deleted, entry.inserted, entry.error.isSome)) =
          some [(1, 1, false), (0, 0, true)] := by
    decide +kernel
  cases hok : (memoryRun .empty sampleSettings sampleFiles sampleStore).value with
  | error e =>
    rw [hok] at heval
    cases heval
  | ok report =>
    rw [hok] at heval
    exact ⟨report, rfl, Option.some.inj heval, (refreshed_of_memoryRun (by decide) hok).1⟩

end Provision

end BulkProvision
