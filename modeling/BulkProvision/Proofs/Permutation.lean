import BulkProvision.Proofs.Isolation
import BulkProvision.Proofs.MemoryRun

/-!
# The order of datasets

Since no dataset interferes with another, a run over the same datasets in another order comes to
the same: it returns a report in the one order exactly when it does in the other, and then it
leaves the same store and says the same about each dataset.  Where a dataset ends the run, those
before it are as if the catalog had stopped short of it, and those after it as if there had been
no run (`run_of_perm`).
-/

namespace BulkProvision

namespace Provision

open Store

/-- A run over an open connection to a store in memory. -/
def storeRun (plan : Plan) (files : FileTree) (s : MemoryStore) :
    Program.Run Call Call.Answer DatasetReport MemoryStore (Except Error Report) :=
  (run plan files).run MemoryStore.handle s

/-- The store in which partitioning is enabled for the database of a plan. -/
def enabled (plan : Plan) (s : MemoryStore) : MemoryStore :=
  { s with partitioned := s.partitioned.insert plan.database () }

section Runs

variable (plan : Plan) (files : FileTree) (s : MemoryStore)

/-- A run is the walk over its catalog, once partitioning is enabled. -/
theorem exists_isolated (hnames : (plan.catalog.map Dataset.name).Nodup) :
    ∃ walk, Isolated plan files (enabled plan s) plan.catalog (enabled plan s) walk ∧
      (storeRun plan files s).value = walk.value.map Report.mk ∧
      (storeRun plan files s).events = walk.events ∧
      (storeRun plan files s).state = walk.state := by
  obtain ⟨outcome, hopening⟩ := s.handle_enablePartitioning plan.database
  have hrun := run_run MemoryStore.handle plan files s
  rw [hopening] at hrun
  refine ⟨_, isolated_provisionDatasets hnames fun _ _ => rfl, ?_, ?_, ?_⟩
  · exact congrArg Program.Run.value hrun
  · exact congrArg Program.Run.events hrun
  · exact congrArg Program.Run.state hrun

/-- A run returns a report exactly when no dataset would end it. -/
theorem storeRun_ok_iff (hnames : (plan.catalog.map Dataset.name).Nodup) :
    (∃ report, (storeRun plan files s).value = .ok report) ↔
      ∀ dataset ∈ plan.catalog, stop? plan files (enabled plan s) dataset = none := by
  obtain ⟨walk, hwalk, hvalue, -, -⟩ := exists_isolated plan files s hnames
  rw [← List.findSome?_eq_none_iff, hvalue, hwalk.value]
  cases plan.catalog.findSome? (stop? plan files (enabled plan s)) with
  | none => simp [Except.map]
  | some e => simp [Except.map]

/-- A run that no dataset ends: its report, and the store that it leaves. -/
theorem storeRun_of_none (hnames : (plan.catalog.map Dataset.name).Nodup)
    (hnone : ∀ dataset ∈ plan.catalog, stop? plan files (enabled plan s) dataset = none) :
    (storeRun plan files s).value =
        .ok ⟨plan.catalog.map (reportOf plan files (enabled plan s))⟩ ∧
      (∀ dataset ∈ plan.catalog, (storeRun plan files s).state.slot dataset.name =
        (alone plan files (enabled plan s) dataset).state.slot dataset.name) ∧
      MemoryStore.Frame (plan.catalog.map Dataset.name) (enabled plan s)
        (storeRun plan files s).state := by
  obtain ⟨walk, hwalk, hvalue, -, hstate⟩ := exists_isolated plan files s hnames
  obtain ⟨hwalked, -, hslot, hframe, -⟩ := hwalk
  rw [List.findSome?_eq_none_iff.2 hnone] at hwalked
  rw [reached_eq_self hnone] at hslot hframe
  rw [hvalue, hstate, hwalked]
  exact ⟨rfl, hslot, hframe⟩

variable {plan files s}

/-- A run that a dataset ends: its error, what is announced, and the store that it leaves. -/
theorem storeRun_of_some {before after : List Dataset} {dataset : Dataset} {e : Error}
    (hnames : (plan.catalog.map Dataset.name).Nodup)
    (hcatalog : plan.catalog = before ++ dataset :: after)
    (hnone : ∀ d ∈ before, stop? plan files (enabled plan s) d = none)
    (hstop : stop? plan files (enabled plan s) dataset = some e) :
    (storeRun plan files s).value = .error e ∧
      (storeRun plan files s).events = before.map (reportOf plan files (enabled plan s)) ∧
      (∀ d ∈ before, (storeRun plan files s).state.slot d.name =
        (alone plan files (enabled plan s) d).state.slot d.name) ∧
      MemoryStore.Frame ((before ++ [dataset]).map Dataset.name) (enabled plan s)
        (storeRun plan files s).state := by
  obtain ⟨walk, hwalk, hvalue, hevents, hstate⟩ := exists_isolated plan files s hnames
  obtain ⟨hwalked, hannounced, hslot, hframe, -⟩ := hwalk
  have hcompleted : completed plan files (enabled plan s) plan.catalog = before :=
    hcatalog ▸ completed_append_cons hnone hstop
  have hreached : reached plan files (enabled plan s) plan.catalog = before ++ [dataset] := by
    rw [reached, hcompleted, hcatalog, List.take_length_add_append]
    rfl
  have hfound : plan.catalog.findSome? (stop? plan files (enabled plan s)) = some e :=
    List.findSome?_eq_some_iff.2 ⟨before, dataset, after, hcatalog, hstop, hnone⟩
  rw [hfound] at hwalked
  rw [hcompleted] at hannounced
  rw [hreached] at hslot hframe
  rw [hvalue, hevents, hstate, hwalked]
  exact ⟨rfl, hannounced, fun d hd => hslot d (List.mem_append_left _ hd), hframe⟩

/-! ### The dataset that ends a run -/

/-- How a dataset ends a run: `before` are the datasets before it in the catalog, and `after` those
after it. -/
structure Aborted (plan : Plan) (files : FileTree) (s : MemoryStore) (e : Error)
    (before : List Dataset) (dataset : Dataset) (after : List Dataset) : Prop where
  catalog : plan.catalog = before ++ dataset :: after
  /-- By itself the dataset ends a run in the same way. -/
  cause : (storeRun { plan with catalog := [dataset] } files s).value = .error e
  /-- Announced is what a run over the datasets before it reports, and no more. -/
  announced : ∃ report, (storeRun { plan with catalog := before } files s).value = .ok report ∧
    (storeRun plan files s).events = report.datasets
  names : (storeRun plan files s).events.map DatasetReport.name = before.map Dataset.name
  before : ∀ d ∈ before, (storeRun plan files s).state.collections.get? d.name =
    (storeRun { plan with catalog := before } files s).state.collections.get? d.name
  after : ∀ d ∈ after,
    (storeRun plan files s).state.collections.get? d.name = s.collections.get? d.name

theorem exists_aborted (hnames : (plan.catalog.map Dataset.name).Nodup) {e : Error}
    (herror : (storeRun plan files s).value = .error e) :
    ∃ before dataset after, Aborted plan files s e before dataset after := by
  obtain ⟨before, dataset, after, hcatalog, e', hstop, hnone⟩ : ∃ before dataset after,
      plan.catalog = before ++ dataset :: after ∧
        ∃ e', stop? plan files (enabled plan s) dataset = some e' ∧
          ∀ d ∈ before, stop? plan files (enabled plan s) d = none := by
    cases hfound : plan.catalog.findSome? (stop? plan files (enabled plan s)) with
    | none =>
      obtain ⟨report, hreport⟩ :=
        (storeRun_ok_iff plan files s hnames).2 (List.findSome?_eq_none_iff.1 hfound)
      rw [herror] at hreport
      cases hreport
    | some e' =>
      obtain ⟨before, dataset, after, hfound⟩ := List.findSome?_eq_some_iff.1 hfound
      exact ⟨before, dataset, after, hfound.1, e', hfound.2⟩
  obtain ⟨hvalue, hevents, hlong, hframe⟩ := storeRun_of_some hnames hcatalog hnone hstop
  obtain rfl : e = e' := Except.error.inj (herror.symm.trans hvalue)
  rw [hcatalog, List.map_append, List.map_cons] at hnames
  obtain ⟨hbefore, hothers, hdisjoint⟩ := List.nodup_append.1 hnames
  obtain ⟨hsingle, -⟩ :=
    @storeRun_of_some { plan with catalog := [dataset] } files s [] [] dataset e
      (List.nodup_cons.2 ⟨List.not_mem_nil, List.nodup_nil⟩) rfl nofun hstop
  obtain ⟨hreport, hshort, -⟩ :=
    storeRun_of_none { plan with catalog := before } files s hbefore hnone
  refine ⟨before, dataset, after, hcatalog, hsingle, ⟨_, hreport, hevents⟩, ?_, fun d hd => ?_,
    fun d hd => ?_⟩
  · rw [hevents, List.map_map]
    exact List.map_congr_left fun d _ => name_reportOf plan files _ d
  · exact congrArg Slot.collection? ((hlong d hd).trans (hshort d hd).symm)
  · have hnot : d.name ∉ (before ++ [dataset]).map Dataset.name := by
      have hmem : d.name ∈ after.map Dataset.name := List.mem_map_of_mem hd
      rw [List.map_append, List.mem_append, not_or]
      refine ⟨fun h => hdisjoint _ h _ (List.mem_cons_of_mem _ hmem) rfl, fun h => ?_⟩
      rw [List.map_singleton, List.mem_singleton] at h
      exact (List.nodup_cons.1 hothers).1 (h ▸ hmem)
    exact congrArg Slot.collection? (hframe.slot _ hnot)

/-! ### Another order -/

/-- **The order of the datasets does not matter.**  A run over the same datasets in another order
returns a report exactly when this one does, and then leaves the same store and reports the same
about each dataset; a run that does not return a report is ended by one dataset, and is over
before it as after it what it would be without it. -/
theorem run_of_perm {catalog : List Dataset} (hperm : plan.catalog.Perm catalog)
    (hnames : (plan.catalog.map Dataset.name).Nodup) :
    ((∃ report, (storeRun plan files s).value = .ok report) ↔
      ∃ report, (storeRun { plan with catalog := catalog } files s).value = .ok report) ∧
    (∀ report report', (storeRun plan files s).value = .ok report →
      (storeRun { plan with catalog := catalog } files s).value = .ok report' →
        (storeRun { plan with catalog := catalog } files s).state =
            (storeRun plan files s).state ∧
          ∃ entry : Dataset → DatasetReport,
            report.datasets = plan.catalog.map entry ∧ report'.datasets = catalog.map entry) ∧
    ∀ e, (storeRun plan files s).value = .error e →
      ∃ before dataset after, Aborted plan files s e before dataset after := by
  have hnames' : (catalog.map Dataset.name).Nodup := (hperm.map Dataset.name).nodup_iff.1 hnames
  have hmem (d : Dataset) : d ∈ catalog ↔ d ∈ plan.catalog := hperm.mem_iff.symm
  have hother := storeRun_ok_iff { plan with catalog := catalog } files s hnames'
  refine ⟨?_, fun report report' hreport hreport' => ?_, fun e => exists_aborted hnames⟩
  · rw [storeRun_ok_iff plan files s hnames, hother]
    exact ⟨fun h d hd => h d ((hmem d).1 hd), fun h d hd => h d ((hmem d).2 hd)⟩
  · obtain ⟨hvalue, hslot, hframe⟩ :=
      storeRun_of_none plan files s hnames
        ((storeRun_ok_iff plan files s hnames).1 ⟨report, hreport⟩)
    obtain ⟨hvalue', hslot', hframe'⟩ :=
      storeRun_of_none { plan with catalog := catalog } files s hnames' (hother.1 ⟨_, hreport'⟩)
    rw [hreport] at hvalue
    rw [hreport'] at hvalue'
    cases hvalue
    cases hvalue'
    refine ⟨?_, reportOf plan files (enabled plan s), rfl, rfl⟩
    -- both differ from the store at the start in these collections only, and agree there
    have hmono : MemoryStore.Frame (plan.catalog.map Dataset.name) (enabled plan s)
        (storeRun { plan with catalog := catalog } files s).state :=
      hframe'.mono fun name hname => (hperm.map Dataset.name).mem_iff.2 hname
    refine (hframe.symm.trans hmono).eq fun name hname => ?_
    obtain ⟨d, hd, rfl⟩ := List.mem_map.1 hname
    exact (hslot' d ((hmem d).2 hd)).trans (hslot d hd).symm

end Runs

/-- The two datasets of the small catalog, in both orders; and, where the connection is lost in the
first of them, the other order, in which the second is already done. -/
theorem run_of_perm_sample :
    let plan := Plan.ofSettings .empty sampleSettings
    let reversed := { plan with catalog := plan.catalog.reverse }
    let lost := sampleStore.inject "insert_many" "stations" .unreachable
    (storeRun reversed sampleFiles sampleStore).state =
        (storeRun plan sampleFiles sampleStore).state ∧
      (storeRun reversed sampleFiles sampleStore).state ≠ enabled plan sampleStore ∧
      ∃ before dataset after, Aborted reversed sampleFiles lost
        (.unreachable "insert_many" "connection lost during insert_many on stations")
        before dataset after := by
  intro plan reversed lost
  have hperm : plan.catalog.Perm reversed.catalog := (List.reverse_perm _).symm
  have hok : (storeRun plan sampleFiles sampleStore).value.toOption.isSome := by decide +kernel
  have hlost : (storeRun reversed sampleFiles lost).value =
      .error (.unreachable "insert_many" "connection lost during insert_many on stations") := by
    decide +kernel
  obtain ⟨hiff, hsame, -⟩ := @run_of_perm plan sampleFiles sampleStore _ hperm
    (by decide +kernel)
  obtain ⟨-, -, haborted⟩ := @run_of_perm reversed sampleFiles lost _ hperm.symm
    (by decide +kernel)
  refine ⟨?_, by decide +kernel, haborted _ hlost⟩
  cases hvalue : (storeRun plan sampleFiles sampleStore).value with
  | error e =>
    rw [hvalue] at hok
    cases hok
  | ok report =>
    obtain ⟨report', hvalue'⟩ := hiff.1 ⟨report, hvalue⟩
    exact (hsame report report' hvalue hvalue').1

end Provision

end BulkProvision
