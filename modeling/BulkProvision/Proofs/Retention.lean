import BulkProvision.Proofs.MemoryRun

/-!
# What a run keeps

However a run ends, the documents of a collection are those it had, or the loaded records, or none
at all; the last is left by a batch that an injected fault kept out (`Goal.documents_after`).  Where
no fault is injected only two things fail a dataset: a source that does not load and another shard
key (`Goal.course_of_faultless`).  Both are met before anything is deleted.

`retained_of_memoryRun` puts this together for whole runs.
-/

namespace BulkProvision

namespace Provision

open Store

namespace Goal

variable (g : Goal)

/-- **No collection is left half loaded.** -/
theorem documents_after (k : Slot) :
    let documents := (g.slotAt k (g.course k).1).collection.documents
    documents = k.collection.documents ∨
      (∃ loaded, g.source = .ok loaded ∧ documents = loaded.records) ∨
      (documents = [] ∧ (k.fault? "insert_many").isSome) := by
  intro documents
  have hdocuments : documents = (g.collectionAt k.collection (g.course k).1).documents := by
    rw [← g.collection_slotAt]
  have hpassed := g.passed_course k
  have hstop : (g.course k).1 = .cleared → (k.refusal? "insert_many" g.name).isSome := by
    intro hcleared
    rcases g.course_cases k with ⟨m, e, hcourse, hobstacle, -⟩ | ⟨hcourse, -⟩
    · rw [hcourse] at hcleared
      rw [show m = .cleared from hcleared, obstacle] at hobstacle
      split at hobstacle
      · cases hobstacle
      · rw [hobstacle]
        rfl
    · rw [hcourse] at hcleared
      cases hcleared
  rw [hdocuments]
  generalize (g.course k).1 = m at hpassed hstop
  -- up to partitioning nothing is deleted; from clearing on the source is loaded
  cases m with
  | cleared =>
    refine .inr (.inr ⟨rfl, ?_⟩)
    have hrefused := hstop rfl
    rw [Slot.refusal?, Option.isSome_map] at hrefused
    exact hrefused
  | filled =>
    obtain ⟨loaded, hloaded, hrecords, -⟩ := g.exists_loaded (hpassed .partitioned (by decide))
    exact .inr (.inl ⟨loaded, hloaded, hrecords⟩)
  | indexed =>
    obtain ⟨loaded, hloaded, hrecords, -⟩ := g.exists_loaded (hpassed .partitioned (by decide))
    exact .inr (.inl ⟨loaded, hloaded, hrecords⟩)
  | _ => exact .inl rfl

/-- **Without faults** only another shard key or the source stops the work. -/
theorem course_of_faultless {k : Slot} (hfault : ∀ operation, k.fault? operation = none) :
    g.course k =
      match g.keyConflict? k.collection with
      | some e => (.validated, .error e)
      | none =>
        match g.source with
        | .error e => (.partitioned, .error e)
        | .ok _ => (.indexed, .ok ()) := by
  have hrefusal (operation : String) : k.refusal? operation g.name = none := by
    rw [Slot.refusal?, hfault]
    rfl
  have huntouched : g.obstacle k .untouched = none := by
    rw [obstacle, hrefusal, hrefusal]
    cases k.collection? <;> rfl
  have hvalidated : g.obstacle k .validated = g.keyConflict? k.collection := by
    rw [obstacle, hrefusal]
    rfl
  have hpartitioned : g.obstacle k .partitioned =
      match g.source with
      | .error e => some e
      | .ok _ => none := by
    cases hsource : g.source with
    | error e => rw [obstacle, hsource]
    | ok loaded => rw [obstacle, hsource, hrefusal]
  have hcleared : g.obstacle k .cleared = none := by
    rw [obstacle, hrefusal, ite_self]
  have hfilled : g.obstacle k .filled = none := by
    rw [obstacle, hrefusal, ite_self]
  rw [course, Milestone.passed]
  simp only [firstStop, huntouched, hvalidated, hpartitioned, hcleared, hfilled]
  cases g.keyConflict? k.collection with
  | some e => rfl
  | none => cases g.source <;> rfl

theorem keyConflict?_isSome (c : Collection) :
    (g.keyConflict? c).isSome ↔
      ∃ key, c.shardKey = some key ∧ key ≠ (g.dataset.shardKey, .hashed) := by
  rw [keyConflict?]
  split
  · next hkey => simp [hkey]
  · next field strategy hkey =>
    rw [hkey]
    split
    · next heq => simp [heq]
    · next hne => exact ⟨fun _ => ⟨_, rfl, fun heq => hne (Prod.mk.inj heq)⟩, fun _ => rfl⟩

theorem isFatal_of_keyConflict? {c : Collection} {e : Error} (h : g.keyConflict? c = some e) :
    e.isFatal = false := by
  rw [keyConflict?] at h
  split at h
  · cases h
  · split at h
    · cases h
    · cases h
      rfl

end Goal

/-- What a run may do to the documents of a dataset: `s` is the store that it found and `t` the
store that it left. -/
structure Retained (plan : Plan) (files : FileTree) (s t : MemoryStore) (dataset : Dataset) :
    Prop where
  documents : t.documents dataset.name = s.documents dataset.name ∨
    (∃ loaded, Source.loadDataset files plan.rules dataset Schema.station = .ok loaded ∧
      t.documents dataset.name = loaded.records) ∨
    t.documents dataset.name = []
  /-- A collection is left empty although there are records only if it was so, or by a fault. -/
  empty : ∀ loaded, Source.loadDataset files plan.rules dataset Schema.station = .ok loaded →
    loaded.records ≠ [] → t.documents dataset.name = [] →
    s.documents dataset.name = [] ∨ (s.fault? "insert_many" dataset.name).isSome

/-- What fails a dataset where no fault is injected, and what a failed dataset keeps. -/
structure Spared (plan : Plan) (files : FileTree) (s t : MemoryStore) (dataset : Dataset)
    (entry : DatasetReport) : Prop where
  name : entry.name = dataset.name
  failed : entry.error.isSome ↔
    (∃ e, Source.loadDataset files plan.rules dataset Schema.station = .error e) ∨
      ∃ key, s.shardKey? dataset.name = some key ∧ key ≠ (dataset.shardKey, .hashed)
  documents : entry.error.isSome → t.documents dataset.name = s.documents dataset.name
  indexes : entry.error.isSome →
    (t.collection dataset.name).indexes = (s.collection dataset.name).indexes
  /-- Another shard key stays; a collection without one has got its own by the time the source
  fails. -/
  shardKey : entry.error.isSome →
    t.shardKey? dataset.name = (s.shardKey? dataset.name).or (some (dataset.shardKey, .hashed))
  validator : t.validator? dataset.name = some (Schema.station, .strict)

section Datasets

variable {plan : Plan} {files : FileTree} {s t : MemoryStore} {g : Goal}

theorem retained_of_slot
    (hsource : g.source = Source.loadDataset files plan.rules g.dataset Schema.station)
    (hslot : t.slot g.name = s.slot g.name ∨
      t.slot g.name = g.slotAt (s.slot g.name) (g.course (s.slot g.name)).1) :
    Retained plan files s t g.dataset := by
  have hdocuments : t.documents g.dataset.name = s.documents g.dataset.name ∨
      (∃ loaded, g.source = .ok loaded ∧ t.documents g.dataset.name = loaded.records) ∨
      (t.documents g.dataset.name = [] ∧ (s.fault? "insert_many" g.dataset.name).isSome) := by
    rcases hslot with hslot | hslot
    · exact .inl (congrArg (·.collection.documents) hslot)
    · have hafter := g.documents_after (s.slot g.name)
      rw [← hslot] at hafter
      exact hafter
  rw [hsource] at hdocuments
  constructor
  · rcases hdocuments with hkept | hloaded | ⟨hempty, -⟩
    · exact .inl hkept
    · exact .inr (.inl hloaded)
    · exact .inr (.inr hempty)
  · intro loaded hloaded hrecords hempty
    rcases hdocuments with hkept | ⟨loaded', hloaded', hrecords'⟩ | ⟨-, hfault⟩
    · exact .inl (hkept ▸ hempty)
    · rw [hloaded] at hloaded'
      cases hloaded'
      exact absurd (hrecords' ▸ hempty) hrecords
    · exact .inr hfault

/-- What a dataset keeps that stopped before its collection was cleared. -/
theorem spared_of_stop {entry : DatasetReport} {m : Milestone} {e : Error}
    (hm : m = .validated ∨ m = .partitioned) (hstation : g.schema = Schema.station)
    (hname : entry.name = g.dataset.name) (herror : entry.error = some e)
    (hslot : t.slot g.dataset.name = g.slotAt (s.slot g.dataset.name) m)
    (hreason : (∃ e, Source.loadDataset files plan.rules g.dataset Schema.station = .error e) ∨
      ∃ key, s.shardKey? g.dataset.name = some key ∧ key ≠ (g.dataset.shardKey, .hashed))
    (hkey : (g.collectionAt (s.slot g.dataset.name).collection m).shardKey =
      (s.shardKey? g.dataset.name).or (some (g.dataset.shardKey, .hashed))) :
    Spared plan files s t g.dataset entry := by
  have hleft : (t.slot g.dataset.name).collection? =
      some (g.collectionAt (s.slot g.dataset.name).collection m) := by
    rw [hslot]
    rcases hm with rfl | rfl <;> rfl
  obtain ⟨hcollection, hshard, hvalidator⟩ := MemoryStore.views_of_slot hleft
  constructor
  · exact hname
  · exact ⟨fun _ => hreason, fun _ => by rw [herror]; rfl⟩
  · intro _
    rw [MemoryStore.documents, hcollection]
    rcases hm with rfl | rfl <;> rfl
  · intro _
    rw [hcollection]
    rcases hm with rfl | rfl <;> rfl
  · intro _
    rw [hshard, hkey]
  · rw [hvalidator, ← hstation]
    rcases hm with rfl | rfl <;> rfl

theorem spared_of_slot {entry : DatasetReport} (hstation : g.schema = Schema.station)
    (hsource : g.source = Source.loadDataset files plan.rules g.dataset Schema.station)
    (hfault : ∀ operation name, s.fault? operation name = none)
    (hslot : t.slot g.name = g.slotAt (s.slot g.name) (g.course (s.slot g.name)).1)
    (hentry : entry.figures = g.entry s.slot) : Spared plan files s t g.dataset entry := by
  have hcourse : g.course (s.slot g.name) = _ :=
    g.course_of_faultless fun operation => hfault operation g.name
  have hentryName : entry.name = g.dataset.name :=
    (congrArg DatasetReport.name hentry :).trans (g.name_entry s.slot)
  have herror : entry.error = (g.entry s.slot).error := (congrArg DatasetReport.error hentry :)
  have hfound : s.shardKey? g.dataset.name = (s.slot g.name).collection.shardKey :=
    s.shardKey?_eq g.dataset.name
  have hconflict := g.keyConflict?_isSome (s.slot g.name).collection
  rw [← hfound] at hconflict
  rw [g.error_entry] at herror
  rw [hcourse] at hslot herror
  -- the work met another key, or a source that does not load, or nothing
  cases hkey : g.keyConflict? (s.slot g.name).collection with
  | some e =>
    rw [hkey] at hslot herror hconflict
    obtain ⟨key, hheld, hother⟩ := hconflict.1 rfl
    refine spared_of_stop (.inl rfl) hstation hentryName herror hslot
      (.inr ⟨key, hheld, hother⟩) ?_
    rw [hheld, Option.some_or, ← hheld, hfound]
    rfl
  | none =>
    rw [hkey] at hslot herror hconflict
    have hown : ¬ ∃ key, s.shardKey? g.dataset.name = some key ∧
        key ≠ (g.dataset.shardKey, .hashed) := fun h => Bool.false_ne_true (hconflict.2 h)
    cases hload : g.source with
    | error e =>
      rw [hload] at hslot herror
      refine spared_of_stop (.inr rfl) hstation hentryName herror hslot
        (.inl ⟨e, hsource ▸ hload⟩) ?_
      cases hheld : s.shardKey? g.dataset.name with
      | none => rfl
      | some key =>
        by_cases hother : key = (g.dataset.shardKey, .hashed)
        · rw [hother]
          rfl
        · exact absurd ⟨key, hheld, hother⟩ hown
    | ok loaded =>
      rw [hload] at hslot herror
      have hleft : (t.slot g.dataset.name).collection? =
          some (g.collectionAt (s.slot g.name).collection .indexed) :=
        congrArg Slot.collection? hslot
      obtain ⟨-, -, hvalidator⟩ := MemoryStore.views_of_slot hleft
      have hnone : ¬ entry.error.isSome := by
        rw [herror]
        exact Bool.false_ne_true
      constructor
      · exact hentryName
      · refine ⟨fun hsome => absurd hsome hnone, ?_⟩
        rintro (⟨e, hfails⟩ | hother)
        · rw [← hsource, hload] at hfails
          cases hfails
        · exact absurd hother hown
      · exact fun hsome => absurd hsome hnone
      · exact fun hsome => absurd hsome hnone
      · exact fun hsome => absurd hsome hnone
      · rw [hvalidator, ← hstation]
        rfl

end Datasets

section Runs

variable {env : Environment} {settings : Settings} {files : FileTree} {s : MemoryStore}

theorem fatal?_goal (hfault : ∀ operation name, s.fault? operation name = none)
    (dataset : Dataset) : (goal env settings files dataset).fatal? s.slot = none := by
  have hsource (e : Error) (h : (goal env settings files dataset).source = .error e) :
      e.isFatal = false := Source.isFatal_of_loadDataset h
  generalize goal env settings files dataset = g at hsource
  rw [Goal.fatal?, g.course_of_faultless fun operation => hfault operation g.name]
  cases hconflict : g.keyConflict? (s.slot g.name).collection with
  | some e => exact if_neg (by rw [g.isFatal_of_keyConflict? hconflict]; exact Bool.false_ne_true)
  | none =>
    cases hload : g.source with
    | error e => exact if_neg (by rw [hsource e hload]; exact Bool.false_ne_true)
    | ok loaded => rfl

/-- **Nothing is lost, and nothing but a fault refuses a batch.** -/
theorem retained_of_memoryRun (hnames : (settings.datasets.map DatasetEntry.name).Nodup) :
    let run := memoryRun env settings files s
    (∀ dataset ∈ Catalog.ofSettings env settings,
      Retained (Plan.ofSettings env settings) files s run.state dataset) ∧
    (∀ name records answer, .called (.insertMany name records) answer ∈ run.steps →
      answer = .ok records.length ∨
        ∃ fault, s.fault? "insert_many" name = some fault ∧
          answer = .error (fault.error "insert_many" name)) ∧
    ((∀ operation name, s.fault? operation name = none) →
      ∃ report, run.value = .ok report ∧
        List.Forall₂ (Spared (Plan.ofSettings env settings) files s run.state)
          (Catalog.ofSettings env settings) report.datasets) := by
  intro run
  have hrun : Provisioned env settings files s run := provisioned_memoryRun hnames
  refine ⟨fun dataset hdataset => ?_, fun name records answer hcalled =>
    hrun.sound (.insertMany name records) answer hcalled, fun hfault => ?_⟩
  · exact retained_of_slot (g := goal env settings files dataset) rfl
      (hrun.slot_cases hnames (List.mem_map_of_mem hdataset))
  · obtain ⟨report, hok⟩ := hrun.exists_report fun g hg => by
      obtain ⟨dataset, -, rfl⟩ := List.mem_map.1 hg
      exact fatal?_goal hfault dataset
    refine ⟨report, hok, (hrun.entries hok).imp ?_⟩
    rintro dataset entry ⟨hslot, hentry⟩
    exact spared_of_slot (g := goal env settings files dataset) rfl rfl hfault hslot hentry

theorem retained_of_sample :
    let run := memoryRun .empty sampleSettings sampleFiles sampleStore
    let plan := Plan.ofSettings .empty sampleSettings
    (∀ dataset ∈ Catalog.ofSettings .empty sampleSettings,
      Retained plan sampleFiles sampleStore run.state dataset) ∧
    ∃ report, run.value = .ok report ∧
      List.Forall₂ (Spared plan sampleFiles sampleStore run.state)
        (Catalog.ofSettings .empty sampleSettings) report.datasets := by
  intro run plan
  obtain ⟨hretained, -, hfaultless⟩ := @retained_of_memoryRun .empty sampleSettings
    sampleFiles sampleStore (by decide)
  exact ⟨hretained, hfaultless fun _ _ => rfl⟩

end Runs

end Provision

end BulkProvision
