import BulkProvision.Proofs.Retention

/-!
# Running again

A second run over the store that the first one left goes the same way, dataset by dataset: what was
done is done again with the same result, and what stopped a dataset stops it again.  The one thing
that can differ is that a collection which the first run created is now there, so that its
validator is replaced, and that may be refused (`Goal.course_after`).

Such a refusal leaves the collection as it is.  But if the first run was ended by that dataset, the
second one is not: it goes on with datasets that the first run never reached.  Apart from this, the
second run leaves the store as the first one did (`state_of_second_run`).
-/

namespace BulkProvision

namespace Provision

open Store

/-! ### How far the second run gets -/

section Reach

variable {slots slots' : String → Slot} {goals : List Goal}

/-- The dataset after those that a walk finishes is the one that ends it. -/
theorem isSome_fatal?_of_getElem? {g : Goal}
    (h : goals[(finished slots goals).length]? = some g) : (g.fatal? slots).isSome := by
  induction goals with
  | nil => cases h
  | cons first rest ih =>
    cases hfatal : first.fatal? slots with
    | some e =>
      rw [finished_cons_of_isSome (by rw [hfatal]; rfl)] at h
      cases h
      rw [hfatal]
      rfl
    | none =>
      rw [finished_cons_of_none hfatal] at h
      exact ih h

/-- A walk gets no further than the dataset that ended another, if that ends it too. -/
theorem length_finished_le
    (h : ∀ g, goals[(finished slots goals).length]? = some g → (g.fatal? slots').isSome) :
    (finished slots' goals).length ≤ (finished slots goals).length := by
  induction goals with
  | nil => exact Nat.le_refl _
  | cons first rest ih =>
    cases hfatal : first.fatal? slots with
    | some e =>
      rw [finished_cons_of_isSome (by rw [hfatal]; rfl)] at h
      rw [finished_cons_of_isSome (h first rfl)]
      exact Nat.zero_le _
    | none =>
      rw [finished_cons_of_none hfatal] at h ⊢
      have hrest := ih h
      cases hfatal' : first.fatal? slots' with
      | some e =>
        rw [finished_cons_of_isSome (by rw [hfatal']; rfl)]
        exact Nat.zero_le _
      | none =>
        rw [finished_cons_of_none hfatal']
        exact Nat.succ_le_succ hrest

end Reach

section Runs

variable {env : Environment} {settings : Settings} {files : FileTree} {s : MemoryStore}
  {first second : MemoryRun}

/-- What the first run did to a collection, the second does not change. -/
theorem slot_of_second_run {g : Goal}
    (hfirst : Provisioned env settings files s first)
    (hsecond : Provisioned env settings files first.state second)
    (hnames : (settings.datasets.map DatasetEntry.name).Nodup)
    (hg : g ∈ visited s.slot (goals env settings files)) :
    second.state.slot g.name = first.state.slot g.name := by
  have hslot := hfirst.slot g hg
  rcases hsecond.slot_cases hnames (List.mem_of_mem_take hg) with hagain | hagain
  · exact hagain
  · rw [hagain, hslot, g.slotAt_after]

/-- A dataset that ended the first run ends the second too, unless replacing the validator of the
collection that the first run created is rejected. -/
theorem fatal?_of_second_run {g : Goal}
    (hfirst : Provisioned env settings files s first)
    (hg : g ∈ visited s.slot (goals env settings files)) (hfatal : (g.fatal? s.slot).isSome)
    (hreject : s.collections.get? g.name = none →
      (first.state.collections.get? g.name).isSome →
      s.fault? "alter_collection_validator" g.name ≠ some .rejected) :
    (g.fatal? first.state.slot).isSome := by
  have hslot := hfirst.slot g hg
  rw [Goal.fatal?]
  rcases g.course_after (s.slot g.name) with hsame | ⟨hnone, hcreated, e, hrefused, huntouched⟩
  · rw [hslot, hsame]
    exact hfatal
  · rw [← hslot] at hcreated huntouched
    rw [huntouched]
    -- a store out of reach ends the second run as well
    obtain ⟨fault, hfault, rfl⟩ := Option.map_eq_some_iff.1 hrefused
    cases fault with
    | rejected => exact absurd hfault (hreject hnone hcreated)
    | unreachable => rfl

/-- A second run that works on no other datasets leaves the store as it is. -/
theorem state_of_finished_le
    (hfirst : Provisioned env settings files s first)
    (hsecond : Provisioned env settings files first.state second)
    (hnames : (settings.datasets.map DatasetEntry.name).Nodup)
    (hle : (finished first.state.slot (goals env settings files)).length ≤
      (finished s.slot (goals env settings files)).length) :
    second.state = { first.state with closed := second.state.closed } := by
  have hsubset := List.take_subset_take_left (goals env settings files) (Nat.succ_le_succ hle)
  have hstate := hsecond.frame.eq fun name hname => by
    obtain ⟨g, hg, rfl⟩ := List.mem_map.1 hname
    exact slot_of_second_run hfirst hsecond hnames (hsubset hg)
  have hpartitioned : first.state.partitioned.insert settings.store.database () =
      first.state.partitioned := by
    rw [hfirst.frame.partitioned, NameMap.insert_insert]
  rw [hstate, hpartitioned]

/-- How an entry of the second run compares with that of the first, where both succeed. -/
structure Repeats (first second : DatasetReport) : Prop where
  name : second.name = first.name
  error : second.error = none
  inserted : second.inserted = first.inserted
  unparseable : second.unparseable = first.unparseable
  indexes : second.indexes = first.indexes
  /-- What the first run inserted is what the second one replaces. -/
  deleted : second.deleted = first.inserted

/-- Without faults, a dataset that succeeded succeeds again, in the same way. -/
theorem entry_of_second_run {g : Goal}
    (hfirst : Provisioned env settings files s first)
    (hg : g ∈ visited s.slot (goals env settings files))
    (hfault : ∀ operation name, s.fault? operation name = none)
    (herror : (g.entry s.slot).error = none) :
    g.fatal? first.state.slot = none ∧
      Repeats (g.entry s.slot) (g.entry first.state.slot) := by
  have hslot := hfirst.slot g hg
  obtain ⟨hcourse, -, hentry⟩ := g.course_of_error_entry s.slot herror
  have hagain : g.course (first.state.slot g.name) = (.indexed, .ok ()) := by
    rw [hslot]
    rcases g.course_after (s.slot g.name) with hsame | ⟨-, -, e, hrefused, -⟩
    · rw [hsame, hcourse]
    · obtain ⟨fault, hinjected, -⟩ := Option.map_eq_some_iff.1 hrefused
      cases (hfault "alter_collection_validator" g.name).symm.trans hinjected
  have herror' : (g.entry first.state.slot).error = none := by rw [g.error_entry, hagain]
  obtain ⟨-, -, hentry'⟩ := g.course_of_error_entry first.state.slot herror'
  have hdocuments : (first.state.slot g.name).collection.documents = g.records := by
    rw [hslot, hcourse, g.collection_slotAt]
    rfl
  refine ⟨by rw [Goal.fatal?, hagain]; rfl, ?_⟩
  rw [hentry, hentry']
  exact ⟨rfl, rfl, rfl, rfl, rfl, congrArg List.length hdocuments⟩

/-- Without faults, a first run in which no dataset failed is repeated, entry by entry. -/
theorem report_of_second_run
    (hfirst : Provisioned env settings files s first)
    (hsecond : Provisioned env settings files first.state second)
    (hfault : ∀ operation name, s.fault? operation name = none) {report : Report}
    (hok : first.value = .ok report) (hsuccess : report.failed = []) :
    ∃ report', second.value = .ok report' ∧ report'.failed = [] ∧
      List.Forall₂ Repeats report.datasets report'.datasets := by
  obtain ⟨hfatal, hfigures⟩ := hfirst.report_figures hok
  have herror (e : DatasetReport) (he : e ∈ report.datasets) : e.error = none := by
    have hnot := List.filter_eq_nil_iff.1 hsuccess e he
    rwa [Option.not_isSome_iff_eq_none] at hnot
  have hagain (g : Goal) (hg : g ∈ goals env settings files) :
      g.fatal? first.state.slot = none ∧ Repeats (g.entry s.slot) (g.entry first.state.slot) := by
    refine entry_of_second_run hfirst (by rwa [visited_eq_self hfatal]) hfault ?_
    have hentry := List.mem_map_of_mem (f := Goal.entry s.slot) hg
    rw [← hfigures] at hentry
    obtain ⟨e, he, heq⟩ := List.mem_map.1 hentry
    rw [← heq]
    exact herror e he
  obtain ⟨report', hok'⟩ := hsecond.exists_report fun g hg => (hagain g hg).1
  obtain ⟨-, hfigures'⟩ := hsecond.report_figures hok'
  -- both reports list the same goals, so they are compared goal by goal
  have hrepeats : List.Forall₂ Repeats (report.datasets.map DatasetReport.figures)
      (report'.datasets.map DatasetReport.figures) := by
    rw [hfigures, hfigures', List.forall₂_map_left_iff, List.forall₂_map_right_iff,
      List.forall₂_same]
    intro g hg
    exact (hagain g hg).2
  rw [List.forall₂_map_left_iff, List.forall₂_map_right_iff] at hrepeats
  refine ⟨report', hok', ?_, hrepeats.imp fun e e' h => ?_⟩
  · refine List.filter_eq_nil_iff.2 fun e' he' => ?_
    have hmem := List.mem_map_of_mem (f := DatasetReport.figures) he'
    rw [hfigures'] at hmem
    obtain ⟨g, hg, heq⟩ := List.mem_map.1 hmem
    have hnone : e'.error = none :=
      (congrArg DatasetReport.error heq.symm :).trans (hagain g hg).2.error
    rw [hnone]
    exact Bool.false_ne_true
  · exact ⟨h.name, h.error, h.inserted, h.unparseable, h.indexes, h.deleted⟩

/-- The datasets that a run worked on: those that it announced, and the next. -/
def workedOn (env : Environment) (settings : Settings)
    (run : MemoryRun) : List Dataset :=
  (Catalog.ofSettings env settings).take (run.events.length + 1)

/-- The dataset that ended a run: the first that it did not announce. -/
def endedBy? (env : Environment) (settings : Settings)
    (run : MemoryRun) : Option Dataset :=
  (Catalog.ofSettings env settings)[run.events.length]?

/-- **Running again** leaves every collection that the first run worked on as it is, and the whole
store, but for the count of closed connections, unless the first run was ended by a dataset whose
collection it had created and whose validator may not be replaced.  Where nothing failed and no
fault is injected, the second run reports the same. -/
theorem state_of_second_run (hnames : (settings.datasets.map DatasetEntry.name).Nodup) :
    let first := memoryRun env settings files s
    let second := memoryRun env settings files first.state
    (∀ dataset ∈ workedOn env settings first,
      second.state.collections.get? dataset.name = first.state.collections.get? dataset.name) ∧
    ((∀ dataset, endedBy? env settings first = some dataset →
        s.collections.get? dataset.name = none →
        (first.state.collections.get? dataset.name).isSome →
        s.fault? "alter_collection_validator" dataset.name ≠ some .rejected) →
      second.state = { first.state with closed := second.state.closed }) ∧
    ((∀ operation name, s.fault? operation name = none) →
      ∀ report, first.value = .ok report → report.failed = [] →
        ∃ report', second.value = .ok report' ∧ report'.failed = [] ∧
          List.Forall₂ Repeats report.datasets report'.datasets) := by
  intro first second
  have hfirst : Provisioned env settings files s first := provisioned_memoryRun hnames
  have hsecond : Provisioned env settings files first.state second := provisioned_memoryRun hnames
  have hlength : first.events.length = (finished s.slot (goals env settings files)).length := by
    have hevents := congrArg List.length hfirst.events
    rwa [List.length_map, List.length_map] at hevents
  rw [workedOn, endedBy?, hlength]
  refine ⟨?_, ?_, ?_⟩
  · intro dataset hdataset
    have hg : goal env settings files dataset ∈ visited s.slot (goals env settings files) := by
      rw [visited, goals, ← List.map_take]
      exact List.mem_map_of_mem hdataset
    exact congrArg Slot.collection? (slot_of_second_run hfirst hsecond hnames hg)
  · intro hreject
    refine state_of_finished_le hfirst hsecond hnames (length_finished_le fun g hg => ?_)
    have hvisited : g ∈ visited s.slot (goals env settings files) :=
      List.mem_of_getElem? (List.getElem?_take_of_succ.trans hg)
    refine fatal?_of_second_run hfirst hvisited (isSome_fatal?_of_getElem? hg) ?_
    rw [goals, List.getElem?_map] at hg
    obtain ⟨dataset, hdataset, rfl⟩ := Option.map_eq_some_iff.1 hg
    exact hreject dataset hdataset
  · intro hfault report hok hsuccess
    exact report_of_second_run hfirst hsecond hfault hok hsuccess

theorem state_of_second_run_sample :
    let first := memoryRun .empty sampleSettings sampleFiles .empty
    let second := memoryRun .empty sampleSettings sampleFiles first.state
    second.state = { first.state with closed := second.state.closed } ∧
      ∃ report report', first.value = .ok report ∧ second.value = .ok report' ∧
        report'.failed = [] ∧ List.Forall₂ Repeats report.datasets report'.datasets := by
  have heval : (memoryRun .empty sampleSettings sampleFiles .empty).value.toOption.map
      Report.failed = some [] := by
    decide +kernel
  have hfault (operation name : String) : MemoryStore.empty.fault? operation name = none := rfl
  have hagain := @state_of_second_run .empty sampleSettings sampleFiles .empty (by decide)
  obtain ⟨-, hstate, hreports⟩ := hagain
  refine ⟨hstate fun dataset _ _ _ hreject => ?_, ?_⟩
  · rw [hfault] at hreject
    cases hreject
  · cases hok : (memoryRun .empty sampleSettings sampleFiles .empty).value with
    | error e =>
      rw [hok] at heval
      cases heval
    | ok report =>
      rw [hok] at heval
      obtain ⟨report', hok', hsuccess, hrepeats⟩ :=
        hreports hfault report hok (Option.some.inj heval)
      exact ⟨report, report', rfl, hok', hsuccess, hrepeats⟩

/-- The two faults by which a second run gets further than the first. -/
def rejectingStore : MemoryStore :=
  (MemoryStore.empty.inject "alter_collection_validator" "stations" .rejected).inject
    "partition_collection" "stations" .unreachable

/-- **A second run may get further.**  The first run is ended by partitioning the collection that
it created; the second is refused the validator of that collection, and goes on to the next
dataset. -/
theorem state_of_second_run_differs :
    let first := memoryRun .empty sampleSettings sampleFiles rejectingStore
    let second := memoryRun .empty sampleSettings sampleFiles first.state
    (sampleSettings.datasets.map DatasetEntry.name).Nodup ∧
      first.state.collections.get? "events" = none ∧
      (second.state.collections.get? "events").isSome ∧
      second.state ≠ { first.state with closed := second.state.closed } := by
  decide +kernel

end Runs

end Provision

end BulkProvision
