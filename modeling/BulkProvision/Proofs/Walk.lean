import BulkProvision.Proofs.Isolation
import BulkProvision.Proofs.Progress
import Mathlib.Data.List.TakeWhile

/-!
# Datasets one after the other, over a store in memory

By itself a dataset takes the course of its goal, and no dataset interferes with another: what
becomes of it is decided by the slot that its collection had when the walk began.  So the datasets
are worked on in order up to the first that ends fatally, and every one of them takes its course
(`walked_provisionDatasets`).
-/

namespace BulkProvision

namespace Provision

open Store Verify

/-! ### Where a walk gets -/

section Walk

variable (slots : String → Slot)

namespace Goal

variable (g : Goal)

/-- The error by which the dataset ends the run. -/
def fatal? : Option Error := Verify.fatal? (g.course (slots g.name)).2

/-- The entry of the dataset in the report, without remarks. -/
def entry : DatasetReport :=
  announced ((g.course (slots g.name)).2, g.figuresAt (slots g.name) (g.course (slots g.name)).1)

theorem error_figuresAt (k : Slot) (m : Milestone) : (g.figuresAt k m).error = none := by
  cases m <;> rfl

theorem name_figuresAt (k : Slot) (m : Milestone) : (g.figuresAt k m).name = g.name := by
  cases m <;> rfl

theorem name_entry : (g.entry slots).name = g.name := by
  have hname := g.name_figuresAt (slots g.name) (g.course (slots g.name)).1
  rw [entry]
  cases (g.course (slots g.name)).2 with
  | error e => exact hname
  | ok u => exact hname

theorem error_entry :
    (g.entry slots).error =
      match (g.course (slots g.name)).2 with
      | .error e => some e
      | .ok () => none := by
  rw [entry]
  cases (g.course (slots g.name)).2 with
  | error e => rfl
  | ok u => exact g.error_figuresAt _ _

/-- An entry without error is that of a collection that passed every milestone. -/
theorem course_of_error_entry (h : (g.entry slots).error = none) :
    g.course (slots g.name) = (.indexed, .ok ()) ∧
      (∀ m ∈ Milestone.indexed.passed, g.obstacle (slots g.name) m = none) ∧
      g.entry slots = g.figuresAt (slots g.name) .indexed := by
  have hok : (g.course (slots g.name)).2 = .ok () := by
    rw [error_entry] at h
    cases hended : (g.course (slots g.name)).2 with
    | error e =>
      rw [hended] at h
      cases h
    | ok u => rfl
  obtain ⟨hcourse, hpassed⟩ := g.course_of_ok hok
  refine ⟨hcourse, hpassed, ?_⟩
  rw [entry, hcourse]
  rfl

end Goal

/-- The datasets that a walk finishes. -/
def finished (goals : List Goal) : List Goal := goals.takeWhile fun g => (g.fatal? slots).isNone

/-- The datasets that a walk works on: those that it finishes, and the one that ends it. -/
def visited (goals : List Goal) : List Goal := goals.take ((finished slots goals).length + 1)

/-- What a walk comes to: the error that ends it, or the entries of all datasets. -/
def walkOutcome (goals : List Goal) : Except Error (List DatasetReport) :=
  match goals.findSome? (Goal.fatal? slots) with
  | some e => .error e
  | none => .ok (goals.map (Goal.entry slots))

/-- What a walk over the datasets does to a store in memory: `slots` is what it found there. -/
structure Walked (goals : List Goal) (s : MemoryStore)
    (walk : Program.Run Call Call.Answer DatasetReport MemoryStore
      (Except Error (List DatasetReport))) : Prop where
  value : walk.value.map (List.map DatasetReport.figures) = walkOutcome slots goals
  events : walk.events.map DatasetReport.figures = (finished slots goals).map (Goal.entry slots)
  slot : ∀ g ∈ visited slots goals,
    walk.state.slot g.name = g.slotAt (slots g.name) (g.course (slots g.name)).1
  frame : MemoryStore.Frame ((visited slots goals).map Goal.name) s walk.state
  sound : ∀ call answer, .called call answer ∈ walk.steps → Sound s.fault? call answer

theorem figures_announced (ended : Except Error Unit) (r : DatasetReport) :
    (announced (ended, r)).figures = announced (ended, r.figures) := by
  cases ended <;> rfl

variable {slots} {g : Goal} {goals : List Goal} {s : MemoryStore}
  {steps : List StoreStep}

theorem finished_cons_of_none (h : g.fatal? slots = none) :
    finished slots (g :: goals) = g :: finished slots goals :=
  List.takeWhile_cons_of_pos (by rw [h]; rfl)

theorem finished_cons_of_isSome (h : (g.fatal? slots).isSome) :
    finished slots (g :: goals) = [] := by
  refine List.takeWhile_cons_of_neg ?_
  rw [Option.isNone_iff_eq_none]
  exact Option.isSome_iff_ne_none.1 h

theorem visited_eq_self (h : ∀ g ∈ goals, g.fatal? slots = none) :
    visited slots goals = goals := by
  have hfinished : finished slots goals = goals := by
    refine List.takeWhile_eq_self_iff.2 fun g hg => ?_
    rw [h g hg]
    rfl
  rw [visited, hfinished]
  exact List.take_of_length_le (Nat.le_succ _)

theorem SoundSteps.sound {fault? : String → String → Option Fault} {call : Call}
    {answer : call.Answer} (h : SoundSteps fault? steps) (hcalled : .called call answer ∈ steps) :
    Sound fault? call answer := by
  obtain ⟨call', answer', heq, hsound⟩ := h _ hcalled
  cases heq
  exact hsound

/-- What the work on a dataset does by itself: it takes the course of the goal. -/
structure TakesCourse (plan : Plan) (files : FileTree) (s : MemoryStore) (dataset : Dataset)
    (g : Goal) : Prop where
  fatal : g.fatal? s.slot = stop? plan files s dataset
  report : (reportOf plan files s dataset).figures = g.entry s.slot
  slot : (alone plan files s dataset).state.slot dataset.name =
    g.slotAt (s.slot dataset.name) (g.course (s.slot dataset.name)).1
  sound : SoundSteps s.fault? (alone plan files s dataset).steps

theorem takesCourse_ofDataset {plan : Plan} {files : FileTree} {dataset : Dataset}
    {schema : Schema} (hregistry : plan.registry.find dataset.name = .ok schema) :
    TakesCourse plan files s dataset (Goal.ofDataset plan files dataset schema) := by
  obtain ⟨hended, hfigures, hstate, -, hsound⟩ :=
    (Goal.ofDataset plan files dataset schema).ends_stages (s := s) (r := .start dataset.name) rfl
  rw [← Goal.provisionStages_eq hregistry] at hended hfigures hstate hsound
  refine ⟨?_, ?_, ?_, hsound⟩
  · exact congrArg Verify.fatal? hended.symm
  · rw [reportOf, figures_announced, alone, run_provisionDataset, hended, hfigures]
    rfl
  · rw [alone, run_provisionDataset, hstate]
    exact Goal.slot_storeAt ..

section Courses

variable {plan : Plan} {files : FileTree} {datasets : List Dataset} {goalOf : Dataset → Goal}

theorem finished_map
    (h : ∀ dataset ∈ datasets, TakesCourse plan files s dataset (goalOf dataset)) :
    finished s.slot (datasets.map goalOf) = (completed plan files s datasets).map goalOf := by
  induction datasets with
  | nil => rfl
  | cons dataset rest ih =>
    have hothers := ih fun d hd => h d (List.mem_cons_of_mem _ hd)
    have hfatal := (h dataset List.mem_cons_self).fatal
    rw [List.map_cons]
    cases hstop : stop? plan files s dataset with
    | none =>
      rw [finished_cons_of_none (hfatal.trans hstop), completed_cons_of_none hstop, hothers,
        List.map_cons]
    | some e =>
      rw [finished_cons_of_isSome (by rw [hfatal, hstop]; rfl), completed_cons_of_some hstop]
      rfl

theorem visited_map
    (h : ∀ dataset ∈ datasets, TakesCourse plan files s dataset (goalOf dataset)) :
    visited s.slot (datasets.map goalOf) = (reached plan files s datasets).map goalOf := by
  rw [visited, reached, finished_map h, List.length_map, List.map_take]

theorem walkOutcome_map
    (h : ∀ dataset ∈ datasets, TakesCourse plan files s dataset (goalOf dataset)) :
    walkOutcome s.slot (datasets.map goalOf) =
      match datasets.findSome? (stop? plan files s) with
      | some e => .error e
      | none => .ok (datasets.map fun dataset => (reportOf plan files s dataset).figures) := by
  have hfatal : (datasets.map goalOf).findSome? (Goal.fatal? s.slot) =
      datasets.findSome? (stop? plan files s) := by
    induction datasets with
    | nil => rfl
    | cons dataset rest ih =>
      rw [List.map_cons, List.findSome?_cons, List.findSome?_cons,
        (h dataset List.mem_cons_self).fatal, ih fun d hd => h d (List.mem_cons_of_mem _ hd)]
  have hentries : (datasets.map goalOf).map (Goal.entry s.slot) =
      datasets.map fun dataset => (reportOf plan files s dataset).figures := by
    rw [List.map_map]
    exact List.map_congr_left fun dataset hdataset => (h dataset hdataset).report.symm
  rw [walkOutcome, hfatal, hentries]

end Courses

/-- **The walk over a catalog.**  Every dataset up to the first fatal one takes its course. -/
theorem walked_provisionDatasets {plan : Plan} {files : FileTree} {datasets : List Dataset}
    {schema : Schema} {s : MemoryStore} (hnames : (datasets.map Dataset.name).Nodup)
    (hregistry : ∀ dataset ∈ datasets, plan.registry.find dataset.name = .ok schema) :
    Walked s.slot (datasets.map fun dataset => Goal.ofDataset plan files dataset schema) s
      ((provisionDatasets plan files datasets).run MemoryStore.handle s) := by
  obtain ⟨hvalue, hevents, hslot, hframe, hcalled⟩ :=
    @isolated_provisionDatasets plan files datasets s s hnames fun _ _ => rfl
  have hcourses : ∀ dataset ∈ datasets, TakesCourse plan files s dataset
      (Goal.ofDataset plan files dataset schema) :=
    fun dataset hdataset => takesCourse_ofDataset (hregistry dataset hdataset)
  generalize (provisionDatasets plan files datasets).run MemoryStore.handle s = walk
    at hvalue hevents hslot hframe hcalled ⊢
  refine ⟨?_, ?_, ?_, ?_, fun call answer hmem => ?_⟩
  · rw [hvalue, walkOutcome_map hcourses]
    cases datasets.findSome? (stop? plan files s) with
    | none => simp [Except.map]
    | some e => rfl
  · rw [hevents, finished_map hcourses, List.map_map, List.map_map]
    refine List.map_congr_left fun dataset hdataset => ?_
    exact (hcourses dataset ((List.takeWhile_sublist _).subset hdataset)).report
  · rw [visited_map hcourses]
    refine List.forall_mem_map.2 fun dataset hdataset => ?_
    exact (hslot dataset hdataset).trans (hcourses dataset (List.mem_of_mem_take hdataset)).slot
  · rw [visited_map hcourses, List.map_map]
    exact hframe
  · obtain ⟨dataset, hdataset, hstep⟩ := hcalled call answer hmem
    exact (hcourses dataset hdataset).sound.sound hstep

end Walk

end Provision

end BulkProvision
