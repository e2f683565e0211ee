import BulkProvision.Proofs.Walk
import Mathlib.Data.List.Forall2
import Mathlib.Data.List.Nodup

/-!
# Runs over a store in memory

A run is a session: it connects, enables partitioning, walks over the catalog and closes.  What it
does to a store in memory is `Provisioned`: the datasets up to the first fatal one take the courses
that the slots of the store decide, nothing else is touched, and the report lists what became of
each dataset (`provisioned_memoryRun`, `Provisioned.entries`).
-/

namespace BulkProvision

namespace Provision

open Store

/-- The goal of a run for a dataset.  Every dataset has the station schema. -/
def goal (env : Environment) (settings : Settings) (files : FileTree) (dataset : Dataset) : Goal :=
  .ofDataset (Plan.ofSettings env settings) files dataset Schema.station

/-- The goals of a run, in order. -/
def goals (env : Environment) (settings : Settings) (files : FileTree) : List Goal :=
  (Catalog.ofSettings env settings).map (goal env settings files)

/-- A finished run over a store in memory. -/
abbrev MemoryRun := Program.Run Call Call.Answer DatasetReport MemoryStore (Except Error Report)

/-- A run over a connection to a store in memory. -/
def memoryRun (env : Environment) (settings : Settings) (files : FileTree) (s : MemoryStore) :
    MemoryRun :=
  (MemoryStore.backend true).session settings.store (run (Plan.ofSettings env settings) files) s

/-- What a run does to a store in memory. -/
structure Provisioned (env : Environment) (settings : Settings) (files : FileTree)
    (s : MemoryStore) (run : MemoryRun) : Prop where
  value : run.value.map (fun report => report.datasets.map DatasetReport.figures) =
    walkOutcome s.slot (goals env settings files)
  events : run.events.map DatasetReport.figures =
    (finished s.slot (goals env settings files)).map (Goal.entry s.slot)
  slot : ∀ g ∈ visited s.slot (goals env settings files),
    run.state.slot g.name = g.slotAt (s.slot g.name) (g.course (s.slot g.name)).1
  frame : MemoryStore.Frame ((visited s.slot (goals env settings files)).map Goal.name)
    { s with
      partitioned := s.partitioned.insert settings.store.database (), closed := s.closed + 1 }
    run.state
  sound : ∀ call answer, .called call answer ∈ run.steps → Sound s.fault? call answer

section Provisioned

variable {env : Environment} {settings : Settings} {files : FileTree} {s : MemoryStore}
  {run : MemoryRun}

/-- A run is the walk over the catalog, between enabling partitioning and closing. -/
theorem memoryRun_eq (env : Environment) (settings : Settings) (files : FileTree)
    (s : MemoryStore) :
    ∃ outcome walk,
      walk = (provisionDatasets (Plan.ofSettings env settings) files
        (Catalog.ofSettings env settings)).run MemoryStore.handle
          { s with partitioned := s.partitioned.insert settings.store.database () } ∧
      memoryRun env settings files s =
        ⟨walk.value.map Report.mk,
          .called (.enablePartitioning settings.store.database) (.ok outcome) ::
            (walk.steps ++ [.called .close ()]),
          { walk.state with closed := walk.state.closed + 1 }⟩ := by
  obtain ⟨outcome, hopening⟩ := s.handle_enablePartitioning settings.store.database
  refine ⟨outcome, _, rfl, ?_⟩
  have hrun := run_run MemoryStore.handle (Plan.ofSettings env settings) files s
  have hdatabase : (Plan.ofSettings env settings).database = settings.store.database := rfl
  rw [hdatabase, hopening] at hrun
  change (closing (run (Plan.ofSettings env settings) files)).run MemoryStore.handle s = _
  rw [run_closing, hrun]
  rfl

/-- **A run over a store in memory.** -/
theorem provisioned_memoryRun (hnames : (settings.datasets.map DatasetEntry.name).Nodup) :
    Provisioned env settings files s (memoryRun env settings files s) := by
  obtain ⟨outcome, walk, hwalk, hrun⟩ := memoryRun_eq env settings files s
  have hcatalog : ((Catalog.ofSettings env settings).map Dataset.name).Nodup := by
    rw [Catalog.ofSettings, List.map_map]
    exact hnames
  -- enabling partitioning touches no slot
  have hwalked : Walked s.slot (goals env settings files)
      { s with partitioned := s.partitioned.insert settings.store.database () } _ :=
    @walked_provisionDatasets (Plan.ofSettings env settings) files _ _
      { s with partitioned := s.partitioned.insert settings.store.database () } hcatalog
      fun _ h => Registry.find_ofCatalog h
  rw [hrun]
  rw [← hwalk] at hwalked
  obtain ⟨hvalue, hevents, hslot, hframe, hsound⟩ := hwalked
  refine ⟨?_, ?_, hslot, ?_, ?_⟩
  · rw [← hvalue]
    cases walk.value <;> rfl
  · have hsilent : Program.Run.events
        ⟨walk.value.map Report.mk,
          .called (.enablePartitioning settings.store.database) (.ok outcome) ::
            (walk.steps ++ [.called .close ()]),
          { walk.state with closed := walk.state.closed + 1 }⟩ = walk.events := by
      simp only [Program.Run.events, List.filterMap_cons, List.filterMap_append,
        List.filterMap_nil, List.append_nil]
    rw [hsilent, hevents]
  · exact ⟨hframe.slot, hframe.partitioned, hframe.users, hframe.faults,
      congrArg (· + 1) hframe.closed⟩
  · intro call answer hcalled
    rcases List.mem_cons.1 hcalled with heq | hcalled
    · cases heq
      trivial
    · rcases List.mem_append.1 hcalled with hcalled | hcalled
      · exact hsound call answer hcalled
      · cases List.mem_singleton.1 hcalled
        trivial

theorem name_of_mem_goals {g : Goal} (hg : g ∈ goals env settings files) :
    g.name ∈ settings.datasets.map DatasetEntry.name := by
  obtain ⟨dataset, hdataset, rfl⟩ := List.mem_map.1 hg
  obtain ⟨entry, hentry, rfl⟩ := List.mem_map.1 hdataset
  exact List.mem_map_of_mem hentry

theorem nodup_goals (hnames : (settings.datasets.map DatasetEntry.name).Nodup) :
    ((goals env settings files).map Goal.name).Nodup := by
  rw [goals, Catalog.ofSettings, List.map_map, List.map_map]
  exact hnames

/-- Collections that no dataset names stay as they are. -/
theorem Provisioned.get?_of_not_mem
    (h : Provisioned env settings files s run) {name : String}
    (hname : name ∉ settings.datasets.map DatasetEntry.name) :
    run.state.collections.get? name = s.collections.get? name := by
  refine congrArg Slot.collection? (h.frame.slot name fun hmem => hname ?_)
  obtain ⟨g, hg, rfl⟩ := List.mem_map.1 hmem
  exact name_of_mem_goals (List.mem_of_mem_take hg)

/-- The collection of a dataset stays as it is when the run does not get that far; otherwise it
takes its course. -/
theorem Provisioned.slot_cases
    (h : Provisioned env settings files s run)
    (hnames : (settings.datasets.map DatasetEntry.name).Nodup) {g : Goal}
    (hg : g ∈ goals env settings files) :
    run.state.slot g.name = s.slot g.name ∨
      run.state.slot g.name = g.slotAt (s.slot g.name) (g.course (s.slot g.name)).1 := by
  by_cases hvisited : g ∈ visited s.slot (goals env settings files)
  · exact .inr (h.slot g hvisited)
  · refine .inl (h.frame.slot g.name fun hmem => ?_)
    obtain ⟨g', hg', heq⟩ := List.mem_map.1 hmem
    have hsame : g' = g :=
      List.inj_on_of_nodup_map (nodup_goals hnames) (List.mem_of_mem_take hg') hg heq
    exact hvisited (hsame ▸ hg')

/-- A run that returns a report worked on every dataset. -/
theorem Provisioned.report_figures
    (h : Provisioned env settings files s run) {report : Report} (hok : run.value = .ok report) :
    (∀ g ∈ goals env settings files, g.fatal? s.slot = none) ∧
      report.datasets.map DatasetReport.figures =
        (goals env settings files).map (Goal.entry s.slot) := by
  have hvalue := h.value
  rw [hok, walkOutcome] at hvalue
  cases hfound : (goals env settings files).findSome? (Goal.fatal? s.slot) with
  | some e =>
    rw [hfound] at hvalue
    cases hvalue
  | none =>
    rw [hfound] at hvalue
    exact ⟨List.findSome?_eq_none_iff.1 hfound, Except.ok.inj hvalue⟩

/-- A run that no dataset ends returns a report. -/
theorem Provisioned.exists_report
    (h : Provisioned env settings files s run)
    (hfatal : ∀ g ∈ goals env settings files, g.fatal? s.slot = none) :
    ∃ report, run.value = .ok report := by
  have hvalue := h.value
  rw [walkOutcome, List.findSome?_eq_none_iff.2 hfatal] at hvalue
  cases hrun : run.value with
  | error e =>
    rw [hrun] at hvalue
    cases hvalue
  | ok report => exact ⟨report, rfl⟩

/-- The entries of a report, dataset by dataset. -/
theorem Provisioned.entries
    (h : Provisioned env settings files s run) {report : Report} (hok : run.value = .ok report) :
    List.Forall₂ (fun dataset entry =>
        run.state.slot dataset.name = (goal env settings files dataset).slotAt
          (s.slot dataset.name)
          ((goal env settings files dataset).course (s.slot dataset.name)).1 ∧
        entry.figures = (goal env settings files dataset).entry s.slot)
      (Catalog.ofSettings env settings) report.datasets := by
  obtain ⟨hfatal, hfigures⟩ := h.report_figures hok
  have hslot := h.slot
  rw [visited_eq_self hfatal] at hslot
  -- the entries and the datasets are both in the order of the goals
  have heq : List.Forall₂ (fun expected found => found = expected)
      ((goals env settings files).map (Goal.entry s.slot))
      (report.datasets.map DatasetReport.figures) := by
    rw [hfigures, List.forall₂_same]
    exact fun _ _ => rfl
  rw [goals, List.forall₂_map_left_iff, List.forall₂_map_left_iff, List.forall₂_map_right_iff]
    at heq
  refine (List.forall₂_and_left _ _).2 ⟨fun dataset hdataset => ?_, heq⟩
  exact hslot _ (List.mem_map_of_mem hdataset)

end Provisioned

/-! ### A small catalog -/

/-- Two datasets. -/
def sampleSettings : Settings :=
  { Settings.standard with
    baseDir := "data"
    datasets := [⟨"stations", "stations.json", ["date", "location", "date"], "station_id"⟩,
      ⟨"events", "events.json", ["date"], "station_id"⟩] }

/-- One record for the first dataset, none for the second. -/
def sampleFiles : FileTree :=
  ⟨[(["data"], .directory),
    (["data", "stations.json"], .text
      "[\x7b\"station_id\": \"S1\", \"date\": \"2024-01-01\", \"location\": \"Oslo\"\x7d]"),
    (["data", "events.json"], .text "[]")]⟩

/-- The first collection is there without a validator and holds a document that does not conform;
the second is partitioned by another key. -/
def sampleStore : MemoryStore :=
  (MemoryStore.empty.setCollection "stations" ⟨none, none, [.empty], ["date"]⟩).setCollection
    "events" ⟨none, some ("date", .ranged), [.empty], []⟩

end Provision

end BulkProvision
