import BulkProvision.Proofs.Stage
import Mathlib.Data.List.Chain
import Mathlib.Data.List.Forall2

/-!
# The calls of a provisioning

Whatever a store answers, a provisioning asks for partitioning first and then works on the
datasets in catalog order, one `Block` of calls for each (`calls_of_run`).  A block follows an
`agenda`: create the collection, give an existing one the validator, partition it, delete all
documents, insert the loaded records, build the indexes.  It ends at the first call that fails,
and it stops before the deletion when the source of the dataset does not load (`Asked`, `Block`);
it is complete exactly when the dataset ends without error (`Fulfilled`, `Block.ok_iff`).

So nothing is deleted before the whole source was read and checked, and nothing is inserted except
right after a deletion in the same collection (`Walk.mem`, `Walk.isChain`).
-/

namespace BulkProvision

namespace Provision

open Store Verify

/-- The error something ended with. -/
def error? {α : Type} : Except Error α → Option Error
  | .error e => some e
  | .ok _ => none

theorem fatal?_eq_filter {α : Type} (x : Except Error α) :
    fatal? x = (error? x).filter Error.isFatal := by
  cases x with
  | ok a => rfl
  | error e => cases h : e.isFatal <;> simp [fatal?, error?, Option.filter, h]

/-- The error of an answer. -/
def answerError? : (call : Call) → call.Answer → Option Error
  | .createCollection .., answer => error? answer
  | .alterValidator .., answer => error? answer
  | .enablePartitioning _, answer => error? answer
  | .partitionCollection .., answer => error? answer
  | .deleteAll _, answer => error? answer
  | .insertMany .., answer => error? answer
  | .createIndex .., answer => error? answer
  | .ensureUser _, answer => error? answer
  | .countDocuments _, answer => error? answer
  | .listIndexFields _, answer => error? answer
  | .close, () => none

/-- Calls are asked in order, each once, up to the first that fails: the steps, and how it ended. -/
inductive Asked : List Call → List StoreStep → Except Error Unit → Prop where
  | nil : Asked [] [] (.ok ())
  /-- The first call fails, and the others are not asked. -/
  | stopped {call : Call} {answer : call.Answer} {e : Error} (rest : List Call)
      (h : answerError? call answer = some e) :
      Asked (call :: rest) [.called call answer] (.error e)
  | next {call : Call} {answer : call.Answer} {rest : List Call} {steps : List StoreStep}
      {ended : Except Error Unit} (h : answerError? call answer = none)
      (hrest : Asked rest steps ended) :
      Asked (call :: rest) (.called call answer :: steps) ended

/-- Whether steps start with a creation that found the collection there. -/
def foundExisting (steps : List StoreStep) : Bool :=
  match steps.head? with
  | some (.called (.createCollection ..) (.ok (.alreadySatisfied _))) => true
  | _ => false

/-- The calls that replace the contents of a collection by a loaded source, and build its
indexes; none, when the source did not load. -/
def refill (dataset : Dataset) : Except Error Source.Loaded → List Call
  | .error _ => []
  | .ok loaded =>
    .deleteAll dataset.name ::
      ((if loaded.records = [] then [] else [.insertMany dataset.name loaded.records]) ++
        dataset.indexFields.map (.createIndex dataset.name))

/-- The calls for a dataset, given whether its collection `existed`, when none of them fails. -/
def agenda (dataset : Dataset) (schema : Schema) (existed : Bool)
    (source : Except Error Source.Loaded) : List Call :=
  .createCollection dataset.name schema level ::
    ((if existed then [.alterValidator dataset.name schema level] else []) ++
      .partitionCollection dataset.name dataset.shardKey .hashed :: refill dataset source)

/-- The steps of the work on one dataset, and how it ended. -/
inductive Block (plan : Plan) (files : FileTree) (dataset : Dataset) :
    List StoreStep → Except Error Unit → Prop where
  /-- Without a schema nothing is asked. -/
  | unknown {e : Error} (h : plan.registry.find dataset.name = .error e) :
      Block plan files dataset [] (.error e)
  /-- The agenda is followed as far as the store lets it; a source that did not load is an error
  even when all of it was. -/
  | followed {schema : Schema} {source : Except Error Source.Loaded} {steps : List StoreStep}
      {ended : Except Error Unit} (hschema : plan.registry.find dataset.name = .ok schema)
      (hsource : Source.loadDataset files plan.rules dataset schema = source)
      (hasked : Asked (agenda dataset schema (foundExisting steps) source) steps ended) :
      Block plan files dataset steps (ended.bind fun _ => source.map fun _ => ())

/-- Every one of the calls is asked, in order, and answered well. -/
def Complete (calls : List Call) (steps : List StoreStep) : Prop :=
  List.Forall₂ (fun call step => ∃ answer, step = .called call answer ∧
    answerError? call answer = none) calls steps

/-- The source of a dataset loads, and its whole agenda is asked and answered well. -/
def Fulfilled (plan : Plan) (files : FileTree) (dataset : Dataset) (steps : List StoreStep) :
    Prop :=
  ∃ schema loaded, plan.registry.find dataset.name = .ok schema ∧
    Source.loadDataset files plan.rules dataset schema = .ok loaded ∧
    Complete (agenda dataset schema (foundExisting steps) (.ok loaded)) steps

/-- The steps of the work on datasets in order, and what it came to. -/
inductive Walk (plan : Plan) (files : FileTree) :
    List Dataset → List StoreStep → Except Error (List DatasetReport) → Prop where
  | nil : Walk plan files [] [] (.ok [])
  /-- A dataset that ended without a fatal error is reported, and the next one follows.  It is
  reported without error exactly when its block is complete. -/
  | next {dataset : Dataset} {rest : List Dataset} {block steps : List StoreStep}
      {ended : Except Error Unit} {report : DatasetReport}
      {result : Except Error (List DatasetReport)} (hblock : Block plan files dataset block ended)
      (hfatal : fatal? ended = none) (hname : report.name = dataset.name)
      (herror : report.error = error? ended)
      (hfulfilled : report.error = none ↔ Fulfilled plan files dataset block)
      (hrest : Walk plan files rest steps result) :
      Walk plan files (dataset :: rest) (block ++ .emitted report :: steps)
        (result.map (report :: ·))
  /-- A fatal error ends the walk. -/
  | aborted {dataset : Dataset} {block : List StoreStep} {e : Error} (rest : List Dataset)
      (hblock : Block plan files dataset block (.error e)) (hfatal : e.isFatal = true)
      (hfulfilled : ¬ Fulfilled plan files dataset block) :
      Walk plan files (dataset :: rest) block (.error e)

/-! ### Calls in order -/

theorem Asked.append {calls₁ calls₂ : List Call} {steps₁ steps₂ : List StoreStep}
    {ended : Except Error Unit} (h₁ : Asked calls₁ steps₁ (.ok ()))
    (h₂ : Asked calls₂ steps₂ ended) : Asked (calls₁ ++ calls₂) (steps₁ ++ steps₂) ended := by
  generalize hok : Except.ok () = first at h₁
  induction h₁ with
  | nil => exact h₂
  | stopped => cases hok
  | next h _ ih => exact .next h (ih hok)

theorem Asked.stop {calls₁ : List Call} {steps : List StoreStep} {e : Error}
    (h : Asked calls₁ steps (.error e)) (calls₂ : List Call) :
    Asked (calls₁ ++ calls₂) steps (.error e) := by
  generalize herr : Except.error e = first at h ⊢
  induction h with
  | nil => cases herr
  | stopped rest h => exact .stopped _ h
  | next h _ ih => exact .next h (ih herr)

theorem foundExisting_append {steps₁ : List StoreStep} (h : steps₁ ≠ [])
    (steps₂ : List StoreStep) : foundExisting (steps₁ ++ steps₂) = foundExisting steps₁ := by
  cases steps₁ with
  | nil => exact absurd rfl h
  | cons step rest => rfl

theorem Asked.ok_iff {calls : List Call} {steps : List StoreStep} {ended : Except Error Unit}
    (h : Asked calls steps ended) : ended = .ok () ↔ Complete calls steps := by
  induction h with
  | nil => exact ⟨fun _ => .nil, fun _ => rfl⟩
  | @stopped call answer e rest h =>
    constructor
    · intro hok
      cases hok
    · intro hcomplete
      cases hcomplete with
      | cons hfirst _ =>
        obtain ⟨answer', heq, hwell⟩ := hfirst
        cases heq
        cases h.symm.trans hwell
  | @next call answer rest steps ended h hrest ih =>
    rw [ih]
    constructor
    · exact fun hcomplete => .cons ⟨answer, rfl, h⟩ hcomplete
    · intro hcomplete
      cases hcomplete with
      | cons _ hothers => exact hothers

/-- **A block is complete** exactly when its dataset ends without error. -/
theorem Block.ok_iff {plan : Plan} {files : FileTree} {dataset : Dataset}
    {steps : List StoreStep} {ended : Except Error Unit}
    (h : Block plan files dataset steps ended) :
    ended = .ok () ↔ Fulfilled plan files dataset steps := by
  cases h with
  | unknown hnone =>
    constructor
    · intro hok
      cases hok
    · rintro ⟨schema, loaded, hschema, -⟩
      cases hnone.symm.trans hschema
  | @followed schema source steps ended hschema hsource hasked =>
    constructor
    · intro hok
      cases source with
      | error e => cases ended <;> cases hok
      | ok loaded =>
        cases ended with
        | error e => cases hok
        | ok u => exact ⟨schema, loaded, hschema, hsource, hasked.ok_iff.1 rfl⟩
    · rintro ⟨schema', loaded, hschema', hloaded, hcomplete⟩
      cases hschema.symm.trans hschema'
      cases hsource.symm.trans hloaded
      rw [hasked.ok_iff.2 hcomplete]
      rfl

/-! ### Stages ask calls -/

section Stages

variable {σ α : Type} {handler : CallHandler σ}

/-- A program asks one call and ends as the call did. -/
def Poses (handler : CallHandler σ) (p : StoreProgram DatasetReport (Except Error α))
    (call : Call) : Prop :=
  ∀ s, ∃ answer, (p.run handler s).steps = [.called call answer] ∧
    answerError? call answer = error? (p.run handler s).value

/-- A stage asks these calls, whatever report and state it starts from. -/
def Asks (handler : CallHandler σ) (x : Stage Unit) (calls : List Call) : Prop :=
  ∀ r s, Asked calls (x.perform handler r s).steps (x.perform handler r s).value.1

theorem asks_modify (f : DatasetReport → DatasetReport) : Asks handler (modify f) [] :=
  fun _ _ => .nil

theorem Asks.bind {x y : Stage Unit} {calls₁ calls₂ : List Call} (hx : Asks handler x calls₁)
    (hy : Asks handler y calls₂) : Asks handler (x >>= fun _ => y) (calls₁ ++ calls₂) := by
  intro r s
  have h := hx r s
  rw [Stage.perform_bind]
  generalize x.perform handler r s = first at h ⊢
  rcases first with ⟨⟨e | ⟨⟩, r'⟩, steps, t⟩
  · exact h.stop calls₂
  · exact h.append (hy r' t)

theorem Asks.call_bind {p : StoreProgram DatasetReport (Except Error α)} {f : α → Stage Unit}
    {call : Call} {calls : List Call} (hp : Poses handler p call)
    (hf : ∀ a, Asks handler (f a) calls) : Asks handler (Stage.lift p >>= f) (call :: calls) := by
  intro r s
  obtain ⟨answer, hsteps, hanswer⟩ := hp s
  rw [Stage.perform_bind, Stage.perform_lift]
  generalize p.run handler s = ran at hsteps hanswer ⊢
  rcases ran with ⟨e | a, steps, t⟩
  · obtain rfl : steps = _ := hsteps
    exact .stopped calls hanswer
  · obtain rfl : steps = _ := hsteps
    exact .next hanswer (hf a r t)

theorem asks_ensurePartitioning (d : Dataset) :
    Asks handler (ensurePartitioning d) [.partitionCollection d.name d.shardKey .hashed] :=
  .call_bind (fun _ => ⟨_, rfl, rfl⟩) fun _ => asks_modify _

theorem asks_buildIndexes (name : String) (fields : List String) :
    Asks handler (buildIndexes name fields) (fields.map (.createIndex name)) := by
  induction fields with
  | nil => exact fun _ _ => .nil
  | cons field rest ih =>
    exact .call_bind (fun _ => ⟨_, rfl, rfl⟩) fun _ => (asks_modify _).bind ih

theorem asks_replaceDocuments (name : String) (loaded : Source.Loaded) :
    Asks handler (replaceDocuments name loaded)
      (.deleteAll name ::
        if loaded.records = [] then [] else [.insertMany name loaded.records]) := by
  refine (asks_modify _).bind (.call_bind (fun _ => ⟨_, rfl, rfl⟩) fun _ => ?_)
  refine (asks_modify _).bind ?_
  cases hrecords : loaded.records with
  | nil => exact asks_modify _
  | cons record others => exact .call_bind (fun _ => ⟨_, rfl, rfl⟩) fun _ => asks_modify _

/-- Creation is always asked; the validator is replaced exactly where the collection was found. -/
theorem ensureCollection_asked (handler : CallHandler σ) (name : String) (schema : Schema)
    (r : DatasetReport) (s : σ) :
    let run := (ensureCollection name schema).perform handler r s
    run.steps ≠ [] ∧
      Asked (.createCollection name schema level ::
          if foundExisting run.steps then [.alterValidator name schema level] else [])
        run.steps run.value.1 := by
  have halter : Asks handler (Stage.lift (Program.ask (Call.alterValidator name schema level)) >>=
      fun _ => Stage.note ("updated validator on collection " ++ name))
      [.alterValidator name schema level] :=
    .call_bind (fun _ => ⟨_, rfl, rfl⟩) fun _ => asks_modify _
  obtain ⟨answer, t, hask⟩ : ∃ (answer : Except Error Outcome) (t : σ),
      (Program.ask (Call.createCollection name schema level)).run handler s =
        ⟨answer, [.called (.createCollection name schema level) answer], t⟩ := ⟨_, _, rfl⟩
  rw [ensureCollection, Stage.perform_bind, Stage.perform_lift, hask]
  rcases answer with e | note | note
  · exact ⟨List.cons_ne_nil _ _, .stopped _ rfl⟩
  · exact ⟨List.cons_ne_nil _ _, .next rfl .nil⟩
  · exact ⟨List.cons_ne_nil _ _, .next rfl (((asks_modify _).bind halter) r t)⟩

/-! ### Blocks and walks -/

/-- What follows once the collection is there. -/
def afterCreation (dataset : Dataset) (source : Except Error Source.Loaded) : Stage Unit := do
  ensurePartitioning dataset
  let loaded ← provisionStages.liftExcept source
  replaceDocuments dataset.name loaded
  buildIndexes dataset.name dataset.indexFields

theorem afterCreation_asked (handler : CallHandler σ) (dataset : Dataset)
    (source : Except Error Source.Loaded) (r : DatasetReport) (s : σ) :
    let run := (afterCreation dataset source).perform handler r s
    ∃ ended, run.value.1 = (ended.bind fun _ => source.map fun _ => ()) ∧
      Asked (.partitionCollection dataset.name dataset.shardKey .hashed :: refill dataset source)
        run.steps ended := by
  have hpart : Asks handler (ensurePartitioning dataset) _ := asks_ensurePartitioning dataset
  cases source with
  | error e =>
    have hasked := hpart r s
    rw [afterCreation, Stage.liftExcept_error_bind, Stage.perform_bind]
    generalize (ensurePartitioning dataset).perform handler r s = first at hasked ⊢
    rcases first with ⟨⟨e' | ⟨⟩, r'⟩, steps, t⟩
    · exact ⟨_, rfl, hasked⟩
    · exact ⟨_, rfl, by simpa [refill] using hasked⟩
  | ok loaded =>
    have hasked := (hpart.bind ((asks_replaceDocuments dataset.name loaded).bind
      (asks_buildIndexes dataset.name dataset.indexFields))) r s
    refine ⟨_, ?_, hasked⟩
    rw [afterCreation, Stage.liftExcept_ok_bind]
    generalize Stage.perform handler _ r s = run
    rcases run with ⟨⟨e' | ⟨⟩, r'⟩, steps, t⟩ <;> rfl

/-- Without a schema nothing is asked. -/
theorem run_provisionDataset_of_error (handler : CallHandler σ) {plan : Plan} {dataset : Dataset}
    {e : Error} (h : plan.registry.find dataset.name = .error e) (files : FileTree) (s : σ) :
    (provisionDataset plan files dataset).run handler s =
      ⟨(.error e, .start dataset.name), [], s⟩ := by
  simp only [run_provisionDataset, provisionStages, h, Stage.liftExcept_error_bind,
    Stage.perform_liftExcept]

/-- With a schema the collection is made sure of, and the rest follows. -/
theorem run_provisionDataset_of_ok (handler : CallHandler σ) {plan : Plan} {dataset : Dataset}
    {schema : Schema} (h : plan.registry.find dataset.name = .ok schema) (files : FileTree)
    (s : σ) :
    (provisionDataset plan files dataset).run handler s =
      (ensureCollection dataset.name schema >>= fun _ =>
        afterCreation dataset (Source.loadDataset files plan.rules dataset schema)).perform handler
          (.start dataset.name) s := by
  simp only [run_provisionDataset, provisionStages, h, Stage.liftExcept_ok_bind, afterCreation]

/-- **The work on one dataset is a block.** -/
theorem block_provisionDataset (handler : CallHandler σ) (plan : Plan) (files : FileTree)
    (dataset : Dataset) (s : σ) :
    let run := (provisionDataset plan files dataset).run handler s
    Block plan files dataset run.steps run.value.1 := by
  intro run
  cases hschema : plan.registry.find dataset.name with
  | error e =>
    have hrun : run = _ := run_provisionDataset_of_error handler hschema files s
    rw [hrun]
    exact .unknown hschema
  | ok schema =>
    have hrun : run = _ := run_provisionDataset_of_ok handler hschema files s
    -- the calls that make sure of the collection, then the others; the block ends where one of
    -- the two parts does
    obtain ⟨hne, hcreate⟩ := ensureCollection_asked handler dataset.name schema
      (.start dataset.name) s
    rw [hrun, Stage.perform_bind]
    generalize (ensureCollection dataset.name schema).perform handler _ s = first at hne hcreate ⊢
    rcases first with ⟨⟨e | ⟨⟩, r'⟩, steps, t⟩
    · exact .followed hschema rfl (hcreate.stop _)
    · obtain ⟨ended, hvalue, hrest⟩ := afterCreation_asked handler dataset
        (Source.loadDataset files plan.rules dataset schema) r' t
      have hasked := hcreate.append hrest
      rw [← foundExisting_append hne] at hasked
      simp only [hvalue]
      exact .followed hschema rfl hasked

/-- **The work on datasets in order is a walk.** -/
theorem walk_provisionDatasets (handler : CallHandler σ) (plan : Plan) (files : FileTree)
    (datasets : List Dataset) (s : σ) :
    let run := (provisionDatasets plan files datasets).run handler s
    Walk plan files datasets run.steps run.value := by
  induction datasets generalizing s with
  | nil => exact run_provisionDatasets_nil handler plan files s ▸ .nil
  | cons dataset rest ih =>
    have hblock := block_provisionDataset handler plan files dataset s
    have htitle := keepsTitle_provisionStages handler plan files dataset
      (.start dataset.name) s
    rw [← run_provisionDataset] at htitle
    rw [run_provisionDatasets_cons]
    generalize (provisionDataset plan files dataset).run handler s = first at hblock htitle ⊢
    rcases first with ⟨⟨e | ⟨⟩, report⟩, steps, t⟩
    · have hbroken : ¬ Fulfilled plan files dataset steps := fun h => by
        cases hblock.ok_iff.2 h
      cases hfatal : e.isFatal with
      | true =>
        simp only [fatal?, hfatal]
        exact .aborted rest hblock hfatal hbroken
      | false =>
        simp only [fatal?, hfatal]
        refine .next hblock (by simp [fatal?, hfatal]) htitle.1 rfl ?_ (ih t)
        exact ⟨fun hnone => (Option.some_ne_none e hnone).elim, fun h => absurd h hbroken⟩
    · have hwhole : Fulfilled plan files dataset steps := hblock.ok_iff.1 rfl
      exact .next hblock rfl htitle.1 htitle.2 ⟨fun _ => hwhole, fun _ => htitle.2⟩ (ih t)

end Stages

/-! ### What is asked when -/

/-- A deletion or an insertion is warranted by a cataloged dataset whose source was loaded; only
the records of that source are inserted, and only if there are any. -/
def Warranted (plan : Plan) (files : FileTree) (datasets : List Dataset) : Call → Prop
  | .deleteAll name => ∃ dataset ∈ datasets, dataset.name = name ∧
      ∃ schema loaded, plan.registry.find name = .ok schema ∧
        Source.loadDataset files plan.rules dataset schema = .ok loaded
  | .insertMany name records => records ≠ [] ∧ ∃ dataset ∈ datasets, dataset.name = name ∧
      ∃ schema loaded, plan.registry.find name = .ok schema ∧
        Source.loadDataset files plan.rules dataset schema = .ok loaded ∧
        loaded.records = records
  | _ => True

/-- An insertion comes right after a deletion in the same collection that was answered well. -/
def FollowsDeletion (before step : StoreStep) : Prop :=
  ∀ name records answer, step = .called (.insertMany name records) answer →
    ∃ deleted, before = .called (.deleteAll name) (.ok deleted)

/-- An insertion comes right after a deletion in the same collection. -/
def AfterDeletion (before call : Call) : Prop :=
  ∀ name records, call = .insertMany name records → before = .deleteAll name

theorem Warranted.mono {plan : Plan} {files : FileTree} {datasets datasets' : List Dataset}
    (h : ∀ dataset ∈ datasets, dataset ∈ datasets') {call : Call}
    (hcall : Warranted plan files datasets call) : Warranted plan files datasets' call := by
  cases call with
  | deleteAll name =>
    obtain ⟨dataset, hmem, hrest⟩ := hcall
    exact ⟨dataset, h dataset hmem, hrest⟩
  | insertMany name records =>
    obtain ⟨hne, dataset, hmem, hrest⟩ := hcall
    exact ⟨hne, dataset, h dataset hmem, hrest⟩
  | _ => trivial

theorem Asked.mem {calls : List Call} {steps : List StoreStep} {ended : Except Error Unit}
    (h : Asked calls steps ended) {step : StoreStep} (hstep : step ∈ steps) :
    ∃ call answer, step = .called call answer ∧ call ∈ calls := by
  induction h with
  | nil => cases hstep
  | @stopped call answer e rest h =>
    obtain rfl := List.mem_singleton.1 hstep
    exact ⟨call, answer, rfl, List.mem_cons_self⟩
  | @next call answer rest steps ended h hrest ih =>
    rcases List.mem_cons.1 hstep with rfl | hstep
    · exact ⟨call, answer, rfl, List.mem_cons_self⟩
    · obtain ⟨call', answer', hstep', hmem⟩ := ih hstep
      exact ⟨call', answer', hstep', List.mem_cons_of_mem _ hmem⟩

theorem Asked.isChain {calls : List Call} {steps : List StoreStep} {ended : Except Error Unit}
    (h : Asked calls steps ended) (hcalls : calls.IsChain AfterDeletion) :
    steps.IsChain FollowsDeletion := by
  induction h with
  | nil => exact .nil
  | stopped => exact .singleton _
  | @next call answer rest steps ended h hrest ih =>
    -- an insertion that is asked next is the next of the calls, so this one is the deletion
    refine (ih hcalls.tail).cons fun step hstep name records answer' heq => ?_
    obtain ⟨rest', rfl⟩ : ∃ rest', rest = .insertMany name records :: rest' := by
      cases hrest with
      | nil => cases hstep
      | stopped rest' _ =>
        obtain rfl := Option.some.inj hstep
        cases heq
        exact ⟨rest', rfl⟩
      | next _ _ =>
        obtain rfl := Option.some.inj hstep
        cases heq
        exact ⟨_, rfl⟩
    obtain rfl := hcalls.rel name records rfl
    cases answer with
    | error e => cases h
    | ok deleted => exact ⟨deleted, rfl⟩

theorem mem_refill {dataset : Dataset} {source : Except Error Source.Loaded} {call : Call}
    (h : call ∈ refill dataset source) :
    ∃ loaded, source = .ok loaded ∧
      (call = .deleteAll dataset.name ∨
        loaded.records ≠ [] ∧ call = .insertMany dataset.name loaded.records ∨
        ∃ field, call = .createIndex dataset.name field) := by
  cases source with
  | error e => cases h
  | ok loaded =>
    refine ⟨loaded, rfl, ?_⟩
    simp only [refill, List.mem_cons, List.mem_append, List.mem_ite_nil_left, List.not_mem_nil,
      or_false, List.mem_map] at h
    rcases h with h | ⟨hne, h⟩ | ⟨field, -, h⟩
    · exact .inl h
    · exact .inr (.inl ⟨hne, h⟩)
    · exact .inr (.inr ⟨field, h.symm⟩)

theorem mem_agenda {dataset : Dataset} {schema : Schema} {existed : Bool}
    {source : Except Error Source.Loaded} {call : Call}
    (h : call ∈ agenda dataset schema existed source) :
    call = .createCollection dataset.name schema level ∨
      call = .alterValidator dataset.name schema level ∨
      call = .partitionCollection dataset.name dataset.shardKey .hashed ∨
      call ∈ refill dataset source := by
  simp only [agenda, List.mem_cons, List.mem_append, List.mem_ite_nil_right, List.not_mem_nil,
    or_false] at h
  rcases h with h | ⟨-, h⟩ | h | h
  · exact .inl h
  · exact .inr (.inl h)
  · exact .inr (.inr (.inl h))
  · exact .inr (.inr (.inr h))

/-- A call that is no insertion may follow anything. -/
theorem afterDeletion_of_ne {before call : Call}
    (h : ∀ name records, call ≠ .insertMany name records) : AfterDeletion before call :=
  fun name records heq => absurd heq (h name records)

theorem isChain_of_ne {calls : List Call}
    (h : ∀ call ∈ calls, ∀ name records, call ≠ .insertMany name records) :
    calls.IsChain AfterDeletion := by
  refine List.Pairwise.isChain (List.pairwise_of_forall_mem_list fun before _ call hcall => ?_)
  exact afterDeletion_of_ne (h call hcall)

theorem isChain_refill (dataset : Dataset) (source : Except Error Source.Loaded) :
    (refill dataset source).IsChain AfterDeletion := by
  have hindexes : ∀ call ∈ dataset.indexFields.map (Call.createIndex dataset.name),
      ∀ name records, call ≠ .insertMany name records := by
    simp
  cases source with
  | error e => exact .nil
  | ok loaded =>
    rw [refill]
    split
    · exact isChain_of_ne (by simp)
    · refine .cons_cons ?_ ((isChain_of_ne hindexes).cons fun call hcall => ?_)
      · rintro name records ⟨⟩
        rfl
      · exact afterDeletion_of_ne (hindexes call (List.mem_of_mem_head? hcall))

theorem isChain_agenda (dataset : Dataset) (schema : Schema) (existed : Bool)
    (source : Except Error Source.Loaded) :
    (agenda dataset schema existed source).IsChain AfterDeletion := by
  have hrefill : (Call.partitionCollection dataset.name dataset.shardKey .hashed ::
      refill dataset source).IsChain AfterDeletion := by
    refine (isChain_refill dataset source).cons fun call hcall => ?_
    cases source with
    | error e => cases hcall
    | ok loaded =>
      obtain rfl := Option.some.inj hcall
      exact afterDeletion_of_ne (by simp)
  rw [agenda]
  cases existed with
  | false => exact .cons_cons (afterDeletion_of_ne (by simp)) hrefill
  | true =>
    refine .cons_cons (afterDeletion_of_ne (by simp)) (.cons_cons ?_ hrefill)
    exact afterDeletion_of_ne (by simp)

variable {plan : Plan} {files : FileTree}

theorem Block.isChain {dataset : Dataset} {steps : List StoreStep} {ended : Except Error Unit}
    (h : Block plan files dataset steps ended) : steps.IsChain FollowsDeletion := by
  cases h with
  | unknown => exact .nil
  | followed _ _ hasked => exact hasked.isChain (isChain_agenda _ _ _ _)

/-- A block asks nothing that its dataset does not warrant, and announces nothing. -/
theorem Block.mem {dataset : Dataset} {steps : List StoreStep} {ended : Except Error Unit}
    (h : Block plan files dataset steps ended) {step : StoreStep} (hstep : step ∈ steps) :
    ∃ call answer, step = .called call answer ∧ Warranted plan files [dataset] call := by
  cases h with
  | unknown => cases hstep
  | @followed schema source steps ended hschema hsource hasked =>
    obtain ⟨call, answer, rfl, hmem⟩ := hasked.mem hstep
    refine ⟨call, answer, rfl, ?_⟩
    rcases mem_agenda hmem with rfl | rfl | rfl | hmem
    · trivial
    · trivial
    · trivial
    · obtain ⟨loaded, rfl, hcall⟩ := mem_refill hmem
      rcases hcall with rfl | ⟨hne, rfl⟩ | ⟨field, rfl⟩
      · exact ⟨dataset, List.mem_cons_self, rfl, schema, loaded, hschema, hsource⟩
      · exact ⟨hne, dataset, List.mem_cons_self, rfl, schema, loaded, hschema, hsource, rfl⟩
      · trivial

/-- The work on a dataset announces nothing: its report is announced when it is finished. -/
theorem events_provisionDataset {σ : Type} (handler : CallHandler σ) (plan : Plan)
    (files : FileTree) (dataset : Dataset) (s : σ) :
    ((provisionDataset plan files dataset).run handler s).events = [] := by
  refine List.filterMap_eq_nil_iff.2 fun step hstep => ?_
  obtain ⟨call, answer, rfl, -⟩ :=
    (block_provisionDataset handler plan files dataset s).mem hstep
  rfl

theorem Block.head {dataset : Dataset} {steps : List StoreStep} {ended : Except Error Unit}
    (h : Block plan files dataset steps ended) {step : StoreStep} (hstep : step ∈ steps.head?) :
    ∃ schema answer, step = .called (.createCollection dataset.name schema level) answer := by
  cases h with
  | unknown => cases hstep
  | @followed schema source steps ended hschema hsource hasked =>
    generalize hagenda : agenda dataset schema (foundExisting steps) source = calls at hasked
    cases hasked with
    | nil => cases hstep
    | stopped rest h =>
      obtain rfl := Option.some.inj hstep
      cases hagenda
      exact ⟨schema, _, rfl⟩
    | next h hrest =>
      obtain rfl := Option.some.inj hstep
      cases hagenda
      exact ⟨schema, _, rfl⟩

/-- Every call of a walk is one of the calls for a dataset. -/
theorem Walk.exists_block {datasets : List Dataset} {steps : List StoreStep}
    {result : Except Error (List DatasetReport)} (h : Walk plan files datasets steps result)
    {call : Call} {answer : call.Answer} (hstep : .called call answer ∈ steps) :
    ∃ dataset ∈ datasets, ∃ block ended, Block plan files dataset block ended ∧
      .called call answer ∈ block := by
  induction h with
  | nil => cases hstep
  | next hblock _ _ _ _ _ ih =>
    rcases List.mem_append.1 hstep with hstep | hstep
    · exact ⟨_, List.mem_cons_self, _, _, hblock, hstep⟩
    · rcases List.mem_cons.1 hstep with heq | hstep
      · cases heq
      · obtain ⟨dataset, hmem, hrest⟩ := ih hstep
        exact ⟨dataset, List.mem_cons_of_mem _ hmem, hrest⟩
  | aborted rest hblock _ _ => exact ⟨_, List.mem_cons_self, _, _, hblock, hstep⟩

theorem Walk.mem {datasets : List Dataset} {steps : List StoreStep}
    {result : Except Error (List DatasetReport)} (h : Walk plan files datasets steps result)
    {call : Call} {answer : call.Answer} (hstep : .called call answer ∈ steps) :
    Warranted plan files datasets call := by
  obtain ⟨dataset, hdataset, block, ended, hblock, hmem⟩ := h.exists_block hstep
  obtain ⟨call', answer', heq, hwarranted⟩ := hblock.mem hmem
  cases heq
  exact hwarranted.mono fun d hd => List.mem_singleton.1 hd ▸ hdataset

/-- A walk may follow anything, since it does not start with an insertion. -/
theorem Walk.isChain {datasets : List Dataset} {steps : List StoreStep}
    {result : Except Error (List DatasetReport)} (h : Walk plan files datasets steps result) :
    steps.IsChain FollowsDeletion ∧
      ∀ before, ∀ step ∈ steps.head?, FollowsDeletion before step := by
  -- a block starts with a creation, which may follow anything
  have hstart {dataset : Dataset} {block : List StoreStep} {ended : Except Error Unit}
      (hb : Block plan files dataset block ended) (before : StoreStep) :
      ∀ step ∈ block.head?, FollowsDeletion before step := by
    intro step hstep name records answer heq
    obtain ⟨schema, answer', rfl⟩ := hb.head hstep
    cases heq
  induction h with
  | nil => exact ⟨.nil, fun before step hstep => by cases hstep⟩
  | @next dataset rest block steps ended report result hb _ _ _ _ hrest ih =>
    have hemitted (before : StoreStep) : FollowsDeletion before (.emitted report) := by
      rintro name records answer ⟨⟩
    refine ⟨hb.isChain.append (ih.1.cons (ih.2 _)) ?_, fun before step hstep => ?_⟩
    · intro before _ step hstep
      obtain rfl := Option.some.inj hstep
      exact hemitted before
    · cases block with
      | nil =>
        obtain rfl := Option.some.inj hstep
        exact hemitted before
      | cons first others => exact hstart hb before step hstep
  | aborted rest hb _ _ => exact ⟨hb.isChain, hstart hb⟩

/-- **The calls of a run.**  Partitioning of the database is asked for first.  If that fails
fatally it is all; else the walk over the catalog follows, one block for each dataset up to the
first fatal error.  Whatever the store answers, a deletion is asked only for a dataset whose source
was loaded, and an insertion only of the records of that source, of at least one, and right after a
deletion in the same collection that was answered well. -/
theorem calls_of_run {σ : Type} (plan : Plan) (files : FileTree) (handler : CallHandler σ)
    (s : σ) :
    let run := (Provision.run plan files).run handler s
    (∃ (answer : Except Error Outcome) (steps : List StoreStep),
      run.steps = .called (.enablePartitioning plan.database) answer :: steps ∧
        match fatal? answer with
        | some e => steps = [] ∧ run.value = .error e
        | none => ∃ result, Walk plan files plan.catalog steps result ∧
            run.value = result.map Report.mk) ∧
      (∀ call ∈ run.calls, Warranted plan files plan.catalog call) ∧
      run.steps.IsChain FollowsDeletion := by
  intro run
  obtain ⟨answer, steps, hsteps, hwalk⟩ : ∃ (answer : Except Error Outcome)
      (steps : List StoreStep), run.steps = .called (.enablePartitioning plan.database) answer ::
        steps ∧ match fatal? answer with
        | some e => steps = [] ∧ run.value = .error e
        | none => ∃ result, Walk plan files plan.catalog steps result ∧
            run.value = result.map Report.mk := by
    have hrun : run = _ := run_run handler plan files s
    generalize handler (.enablePartitioning plan.database) s = opening at hrun
    obtain ⟨answer, t⟩ := opening
    cases hfatal : fatal? answer with
    | some e =>
      simp only [hfatal] at hrun
      rw [hrun]
      exact ⟨answer, [], rfl, by simp [hfatal]⟩
    | none =>
      simp only [hfatal] at hrun
      rw [hrun]
      refine ⟨answer, _, rfl, ?_⟩
      simp only [hfatal]
      exact ⟨_, walk_provisionDatasets handler plan files plan.catalog t, rfl⟩
  refine ⟨⟨answer, steps, hsteps, hwalk⟩, ?_, ?_⟩
  · intro call hcall
    obtain ⟨answer', hmem⟩ := Program.mem_calls.1 hcall
    rw [hsteps] at hmem
    rcases List.mem_cons.1 hmem with heq | hmem
    · cases heq
      trivial
    · cases hfatal : fatal? answer with
      | some e =>
        simp only [hfatal] at hwalk
        rw [hwalk.1] at hmem
        cases hmem
      | none =>
        simp only [hfatal] at hwalk
        obtain ⟨result, hwalk, -⟩ := hwalk
        exact hwalk.mem hmem
  · rw [hsteps]
    cases hfatal : fatal? answer with
    | some e =>
      simp only [hfatal] at hwalk
      rw [hwalk.1]
      exact .singleton _
    | none =>
      simp only [hfatal] at hwalk
      obtain ⟨result, hwalk, -⟩ := hwalk
      exact hwalk.isChain.1.cons (hwalk.isChain.2 _)

end Provision

end BulkProvision
