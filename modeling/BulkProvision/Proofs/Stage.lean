import BulkProvision.Provision
import BulkProvision.Verify

/-!
# Running stages

A stage works on the report of a dataset and may stop it with an error.  `Stage.perform` runs a
stage over a handler, and `Stage.perform_bind` says that a sequence of two stages runs as the one
after the other, unless the first stops the dataset.

A run over several datasets is unfolded one dataset at a time (`run_provisionDatasets_cons`): a
fatal error ends it, any other error is kept in the report of its dataset.
-/

namespace BulkProvision

theorem Program.mem_calls {Op : Type} {Answer : Op → Type} {ε σ α : Type}
    {run : Program.Run Op Answer ε σ α} {op : Op} :
    op ∈ run.calls ↔ ∃ answer, .called op answer ∈ run.steps := by
  rw [Program.Run.calls, List.mem_filterMap]
  constructor
  · rintro ⟨step, hstep, heq⟩
    cases step with
    | called op' answer => exact Option.some.inj heq ▸ ⟨answer, hstep⟩
    | emitted event => cases heq
  · rintro ⟨answer, hstep⟩
    exact ⟨_, hstep, rfl⟩

/-- Closing comes after the program. -/
theorem Store.run_closing {σ ε α : Type} (handler : Store.CallHandler σ)
    (p : Store.StoreProgram ε α) (s : σ) :
    (Store.closing p).run handler s =
      let inner := p.run handler s
      ⟨inner.value, inner.steps ++ [.called .close ()], (handler .close inner.state).2⟩ := by
  rw [Store.closing, Program.run_bind]
  rfl

/-- Only an error is fatal. -/
theorem Verify.fatal?_eq_some_iff {α : Type} {x : Except Error α} {e : Error} :
    fatal? x = some e ↔ x = .error e ∧ e.isFatal = true := by
  cases x with
  | ok value => simp [fatal?]
  | error e' =>
    rw [fatal?]
    split
    · next hfatal =>
      constructor
      · rintro ⟨⟩
        exact ⟨rfl, hfatal⟩
      · rintro ⟨⟨⟩, -⟩
        rfl
    · next hfatal =>
      constructor
      · intro h
        cases h
      · rintro ⟨⟨⟩, hother⟩
        exact absurd hother hfatal

namespace Provision

open Store Verify

/-- One step of a provisioning. -/
abbrev StoreStep := Program.Step Call Call.Answer DatasetReport

variable {σ α β : Type} (handler : CallHandler σ)

namespace Stage

/-- Runs a stage over a handler, from a report. -/
def perform (x : Stage α) (r : DatasetReport) (s : σ) :
    Program.Run Call Call.Answer DatasetReport σ (Except Error α × DatasetReport) :=
  Program.run handler ((ExceptT.run x).run r) s

@[simp] theorem perform_liftExcept (x : Except Error α) (r : DatasetReport) (s : σ) :
    perform handler (provisionStages.liftExcept x) r s = ⟨(x, r), [], s⟩ := rfl

theorem liftExcept_ok_bind (a : α) (f : α → Stage β) :
    provisionStages.liftExcept (.ok a) >>= f = f a := rfl

theorem liftExcept_error_bind (e : Error) (f : α → Stage β) :
    provisionStages.liftExcept (.error e) >>= f = provisionStages.liftExcept (.error e) := rfl

/-- What is asked of the store leaves the report as it is. -/
@[simp] theorem perform_lift (p : StoreProgram DatasetReport (Except Error α)) (r : DatasetReport)
    (s : σ) :
    perform handler (lift p) r s =
      ⟨((p.run handler s).value, r), (p.run handler s).steps, (p.run handler s).state⟩ := by
  change Program.run handler (p >>= fun a => pure (a, r)) s = _
  rw [Program.run_bind]
  simp

/-- **A sequence of two stages** runs as the one after the other, unless the first stops. -/
theorem perform_bind (x : Stage α) (f : α → Stage β) (r : DatasetReport) (s : σ) :
    perform handler (x >>= f) r s =
      let first := perform handler x r s
      match first.value with
      | (.error e, r') => ⟨(.error e, r'), first.steps, first.state⟩
      | (.ok a, r') =>
        let second := perform handler (f a) r' first.state
        ⟨second.value, first.steps ++ second.steps, second.state⟩ := by
  simp only [perform, ExceptT.run_bind, StateT.run_bind, Program.run_bind]
  rcases Program.run handler ((ExceptT.run x).run r) s with ⟨⟨_ | a, r'⟩, steps, t⟩
  · simp
  · simp

theorem perform_bind_ok {x : Stage α} {r r' : DatasetReport} {s : σ} {a : α}
    (h : (perform handler x r s).value = (.ok a, r')) (f : α → Stage β) :
    perform handler (x >>= f) r s =
      let first := perform handler x r s
      let second := perform handler (f a) r' first.state
      ⟨second.value, first.steps ++ second.steps, second.state⟩ := by
  rw [perform_bind]
  simp only [h]

theorem perform_bind_error {x : Stage α} {r r' : DatasetReport} {s : σ} {e : Error}
    (h : (perform handler x r s).value = (.error e, r')) (f : α → Stage β) :
    perform handler (x >>= f) r s =
      let first := perform handler x r s
      ⟨(.error e, r'), first.steps, first.state⟩ := by
  rw [perform_bind]
  simp only [h]

end Stage

/-! ### What stages leave alone -/

/-- A stage leaves a part of the report alone. -/
def KeepsPart {γ : Type} (part : DatasetReport → γ) (x : Stage α) : Prop :=
  ∀ r s, part (x.perform handler r s).value.2 = part r

/-- A stage leaves the name and the error of the report alone. -/
def KeepsTitle (x : Stage α) : Prop :=
  ∀ r s, (x.perform handler r s).value.2.name = r.name ∧
    (x.perform handler r s).value.2.error = r.error

/-- A part of a report that nothing a store answers is written to. -/
structure Aside {γ : Type} (part : DatasetReport → γ) : Prop where
  notes : ∀ r notes, part { r with notes := notes } = part r
  deleted : ∀ r deleted, part { r with deleted := deleted } = part r
  inserted : ∀ r inserted, part { r with inserted := inserted } = part r
  indexes : ∀ r indexes, part { r with indexes := indexes } = part r

section KeepsPart

variable {handler} {γ : Type} {part : DatasetReport → γ}

theorem KeepsPart.bind {x : Stage α} {f : α → Stage β} (hx : KeepsPart handler part x)
    (hf : ∀ a, KeepsPart handler part (f a)) : KeepsPart handler part (x >>= f) := by
  intro r s
  have hfirst := hx r s
  rw [Stage.perform_bind]
  generalize x.perform handler r s = first at hfirst ⊢
  rcases first with ⟨⟨e | a, r'⟩, steps, t⟩
  · exact hfirst
  · exact (hf a r' t).trans hfirst

theorem keepsPart_liftExcept (x : Except Error α) :
    KeepsPart handler part (provisionStages.liftExcept x) := fun _ _ => rfl

theorem keepsPart_lift (p : StoreProgram DatasetReport (Except Error α)) :
    KeepsPart handler part (Stage.lift p) := fun r s => by
  rw [Stage.perform_lift]

theorem keepsPart_modify {f : DatasetReport → DatasetReport} (h : ∀ r, part (f r) = part r) :
    KeepsPart handler part (modify f : Stage Unit) := fun r _ => h r

theorem keepsPart_note (h : Aside part) (text : String) :
    KeepsPart handler part (Stage.note text) :=
  keepsPart_modify fun r => h.notes r _

theorem keepsPart_ensureCollection (h : Aside part) (name : String) (schema : Schema) :
    KeepsPart handler part (ensureCollection name schema) := by
  refine (keepsPart_lift _).bind fun outcome => (keepsPart_note h _).bind fun _ => ?_
  split
  · exact (keepsPart_lift _).bind fun _ => keepsPart_note h _
  · exact fun _ _ => rfl

theorem keepsPart_ensurePartitioning (h : Aside part) (dataset : Dataset) :
    KeepsPart handler part (ensurePartitioning dataset) :=
  (keepsPart_lift _).bind fun _ => keepsPart_note h _

/-- What follows in a replacement once the NaNs are reported. -/
def exchangeDocuments (name : String) (loaded : Source.Loaded) : Stage Unit := do
  let deleted ← Stage.lift (Program.ask (Call.deleteAll name))
  modify fun r => { r with deleted := deleted }
  if loaded.records.isEmpty then Stage.note "source is empty, insert skipped"
  else
    let inserted ← Stage.lift (Program.ask (Call.insertMany name loaded.records))
    modify fun r => { r with inserted := inserted }

theorem replaceDocuments_eq (name : String) (loaded : Source.Loaded) :
    replaceDocuments name loaded =
      (do
        modify fun r => { r with unparseable := loaded.coercion.unparseable }
        exchangeDocuments name loaded) := rfl

theorem keepsPart_exchangeDocuments (h : Aside part) (name : String) (loaded : Source.Loaded) :
    KeepsPart handler part (exchangeDocuments name loaded) := by
  refine (keepsPart_lift _).bind fun deleted => ?_
  refine (keepsPart_modify fun r => h.deleted r _).bind fun _ => ?_
  split
  · exact keepsPart_note h _
  · exact (keepsPart_lift _).bind fun inserted => keepsPart_modify fun r => h.inserted r _

theorem keepsPart_buildIndexes (h : Aside part) (name : String) (fields : List String) :
    KeepsPart handler part (buildIndexes name fields) := by
  induction fields with
  | nil => exact fun _ _ => rfl
  | cons field rest ih =>
    refine (keepsPart_lift _).bind fun _ => ?_
    exact (keepsPart_modify fun r => h.indexes r _).bind fun _ => ih

end KeepsPart

theorem keepsTitle_provisionStages (plan : Plan) (files : FileTree) (dataset : Dataset) :
    KeepsTitle handler (provisionStages plan files dataset) := by
  have h : Aside fun r => (r.name, r.error) :=
    ⟨fun _ _ => rfl, fun _ _ => rfl, fun _ _ => rfl, fun _ _ => rfl⟩
  have hkeeps : KeepsPart handler (fun r => (r.name, r.error))
      (provisionStages plan files dataset) := by
    refine (keepsPart_liftExcept _).bind fun schema => ?_
    refine (keepsPart_ensureCollection h _ _).bind fun _ => ?_
    refine (keepsPart_ensurePartitioning h _).bind fun _ => ?_
    refine (keepsPart_liftExcept _).bind fun loaded => ?_
    rw [replaceDocuments_eq]
    refine KeepsPart.bind (.bind (keepsPart_modify fun _ => ?_) fun _ => ?_) fun _ => ?_
    · rfl
    · exact keepsPart_exchangeDocuments h _ _
    · exact keepsPart_buildIndexes h _ _
  intro r s
  exact ⟨congrArg Prod.fst (hkeeps r s), congrArg Prod.snd (hkeeps r s)⟩

/-! ### Datasets one after the other -/

/-- The report of a dataset as it is announced. -/
def announced : Except Error Unit × DatasetReport → DatasetReport
  | (.error e, report) => { report with error := some e }
  | (.ok (), report) => report

theorem run_provisionDataset (plan : Plan) (files : FileTree) (dataset : Dataset) (s : σ) :
    (provisionDataset plan files dataset).run handler s =
      Stage.perform handler (provisionStages plan files dataset) (.start dataset.name) s := rfl

/-- The report of a dataset bears its name, whatever became of the dataset. -/
theorem name_announced (plan : Plan) (files : FileTree) (dataset : Dataset) (s : σ) :
    (announced ((provisionDataset plan files dataset).run handler s).value).name =
      dataset.name := by
  have htitle := (keepsTitle_provisionStages handler plan files dataset (.start dataset.name) s).1
  rw [← run_provisionDataset] at htitle
  rcases hvalue : ((provisionDataset plan files dataset).run handler s).value with ⟨e | u, report⟩
  · rw [hvalue] at htitle
    exact htitle
  · rw [hvalue] at htitle
    exact htitle

@[simp] theorem run_provisionDatasets_nil (plan : Plan) (files : FileTree) (s : σ) :
    (provisionDatasets plan files []).run handler s = ⟨.ok [], [], s⟩ := by
  simp [provisionDatasets]

/-- **One dataset and the rest.**  A fatal error ends the run with the steps of the dataset; else
its report is announced and the rest is worked on from the state it left. -/
theorem run_provisionDatasets_cons (plan : Plan) (files : FileTree) (dataset : Dataset)
    (rest : List Dataset) (s : σ) :
    (provisionDatasets plan files (dataset :: rest)).run handler s =
      let first := (provisionDataset plan files dataset).run handler s
      match fatal? first.value.1 with
      | some e => ⟨.error e, first.steps, first.state⟩
      | none =>
        let report := announced first.value
        let others := (provisionDatasets plan files rest).run handler first.state
        ⟨others.value.map (report :: ·), first.steps ++ .emitted report :: others.steps,
          others.state⟩ := by
  have finish (report : DatasetReport) (t : σ) :
      (provisionDatasets.finish report (provisionDatasets plan files rest)).run handler t =
        let others := (provisionDatasets plan files rest).run handler t
        ⟨others.value.map (report :: ·), .emitted report :: others.steps, others.state⟩ := by
    simp only [provisionDatasets.finish, Program.announce, Program.emit_bind, Program.done_bind,
      Program.run_emit, Program.run_bind]
    rcases (provisionDatasets plan files rest).run handler t with ⟨_ | reports, steps, u⟩
    · simp [Except.map]
    · simp [Except.map]
  simp only [provisionDatasets, Program.run_bind]
  rcases (provisionDataset plan files dataset).run handler s with ⟨⟨e | ⟨⟩, report⟩, steps, t⟩
  · cases he : e.isFatal
    · simp [fatal?, announced, he, finish]
    · simp [fatal?, he]
  · simp [fatal?, announced, finish]

/-- **A run**: partitioning is asked for first; unless that fails fatally the datasets follow. -/
theorem run_run (plan : Plan) (files : FileTree) (s : σ) :
    (run plan files).run handler s =
      let opening := handler (.enablePartitioning plan.database) s
      match fatal? opening.1 with
      | some e => ⟨.error e, [.called (.enablePartitioning plan.database) opening.1], opening.2⟩
      | none =>
        let walk := (provisionDatasets plan files plan.catalog).run handler opening.2
        ⟨walk.value.map Report.mk,
          .called (.enablePartitioning plan.database) opening.1 :: walk.steps, walk.state⟩ := by
  have walk (t : σ) :
      (run.walk plan files).run handler t =
        let walk := (provisionDatasets plan files plan.catalog).run handler t
        ⟨walk.value.map Report.mk, walk.steps, walk.state⟩ := by
    simp only [run.walk, Program.run_bind]
    rcases (provisionDatasets plan files plan.catalog).run handler t with ⟨_ | reports, steps, u⟩
    · simp [Except.map]
    · simp [Except.map]
  simp only [run, Program.ask, Program.call_bind, Program.done_bind, Program.run_call]
  rcases handler (.enablePartitioning plan.database) s with ⟨e | outcome, t⟩
  · cases he : e.isFatal
    · simp [fatal?, he, walk]
    · simp [fatal?, he]
  · simp [fatal?, walk]

end Provision

end BulkProvision
