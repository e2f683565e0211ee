import BulkProvision.Proofs.Milestone
import BulkProvision.Proofs.Stage

/-!
# The work on a dataset over a store in memory

Every stage of the work takes the collection from one milestone to the next, or stops the dataset
at the obstacle of the milestone.  So the work ends as its course says, with the figures and the
collection of the milestone it reached (`Goal.ends_stages`).

The validator that the work attached never refuses the batch that follows
(`Goal.handle_insertMany_cleared`): a batch is refused by an injected fault or not at all.
-/

namespace BulkProvision

namespace Provision

open Store

/-! ### Steps and stages -/

/-- No validation refuses a batch: it goes in whole, or a fault is injected for it. -/
def Sound (fault? : String → String → Option Fault) : (call : Call) → call.Answer → Prop
  | .insertMany name records, answer =>
    answer = .ok records.length ∨
      ∃ fault, fault? "insert_many" name = some fault ∧
        answer = .error (fault.error "insert_many" name)
  | _, _ => True

/-- The steps are calls, and nothing but a fault refuses a batch. -/
def SoundSteps (fault? : String → String → Option Fault) (steps : List StoreStep) : Prop :=
  ∀ step ∈ steps, ∃ call answer, step = .called call answer ∧ Sound fault? call answer

/-- All of a report but its remarks. -/
def DatasetReport.figures (r : DatasetReport) : DatasetReport := { r with notes := [] }

/-- How a stage ends over a store in memory, and the figures and the store that it leaves. -/
structure Ends {α : Type} (x : Stage α) (r : DatasetReport) (s : MemoryStore)
    (ended : Except Error α) (figures : DatasetReport) (t : MemoryStore) : Prop where
  ended : (x.perform MemoryStore.handle r s).value.1 = ended
  figures : (x.perform MemoryStore.handle r s).value.2.figures = figures
  state : (x.perform MemoryStore.handle r s).state = t
  fault? : t.fault? = s.fault?
  sound : SoundSteps s.fault? (x.perform MemoryStore.handle r s).steps

section Ends

variable {α β : Type} {r : DatasetReport} {s t u : MemoryStore}

theorem Ends.bind {x : Stage α} {f : α → Stage β} {a : α} {ended : Except Error β}
    {figures figures' : DatasetReport} (hx : Ends x r s (.ok a) figures t)
    (hf : ∀ r', r'.figures = figures → Ends (f a) r' t ended figures' u) :
    Ends (x >>= f) r s ended figures' u := by
  obtain ⟨hended, hfigures, hstate, hfault, hsound⟩ := hx
  have hrun : (x.perform MemoryStore.handle r s).value =
      (.ok a, (x.perform MemoryStore.handle r s).value.2) := Prod.ext hended rfl
  obtain ⟨hended', hfigures', hstate', hfault', hsound'⟩ := hf _ hfigures
  rw [← hstate] at hended' hfigures' hstate' hsound'
  rw [hstate, hfault] at hsound'
  refine ⟨?_, ?_, ?_, hfault'.trans hfault, ?_⟩ <;> rw [Stage.perform_bind_ok _ hrun]
  · exact hended'
  · exact hfigures'
  · exact hstate'
  · intro step hstep
    rcases List.mem_append.1 hstep with hstep | hstep
    · exact hsound step hstep
    · exact hsound' step (hstate ▸ hstep)

theorem Ends.bind_error {x : Stage α} {e : Error} {figures : DatasetReport}
    (hx : Ends x r s (.error e) figures t) (f : α → Stage β) :
    Ends (x >>= f) r s (.error e) figures t := by
  obtain ⟨hended, hfigures, hstate, hfault, hsound⟩ := hx
  have hrun : (x.perform MemoryStore.handle r s).value =
      (.error e, (x.perform MemoryStore.handle r s).value.2) := Prod.ext hended rfl
  refine ⟨?_, ?_, ?_, hfault, ?_⟩ <;> rw [Stage.perform_bind_error _ hrun]
  · exact hfigures
  · exact hstate
  · exact hsound

theorem ends_liftExcept (x : Except Error α) :
    Ends (provisionStages.liftExcept x) r s x r.figures s :=
  ⟨rfl, rfl, rfl, rfl, fun _ h => absurd h List.not_mem_nil⟩

theorem ends_modify {f : DatasetReport → DatasetReport} {figures : DatasetReport}
    (h : (f r).figures = figures) : Ends (modify f) r s (.ok ()) figures s :=
  ⟨rfl, h, rfl, rfl, fun _ h => absurd h List.not_mem_nil⟩

theorem ends_note (text : String) : Ends (Stage.note text) r s (.ok ()) r.figures s :=
  ends_modify rfl

theorem called {call : Call} (h : Sound s.fault? call (MemoryStore.handle call s).1) :
    SoundSteps s.fault?
      ((Program.ask call : StoreProgram DatasetReport _).run MemoryStore.handle s).steps :=
  List.forall_mem_singleton.2 ⟨call, _, rfl, h⟩

theorem ends_lift {p : StoreProgram DatasetReport (Except Error α)} {answer : Except Error α}
    (h : ((p.run MemoryStore.handle s).value, (p.run MemoryStore.handle s).state) = (answer, t))
    (hfault : t.fault? = s.fault?)
    (hsound : SoundSteps s.fault? (p.run MemoryStore.handle s).steps) :
    Ends (Stage.lift p) r s answer r.figures t := by
  obtain ⟨hvalue, hstate⟩ := Prod.mk.inj h
  refine ⟨?_, ?_, ?_, hfault, ?_⟩ <;> rw [Stage.perform_lift]
  · exact hvalue
  · exact hstate
  · exact hsound

end Ends

namespace Goal

variable (g : Goal) {r : DatasetReport} {s : MemoryStore}

/-- A store in which the collection was brought to a milestone. -/
def storeAt (s : MemoryStore) : Milestone → MemoryStore
  | .untouched => s
  | m => s.setCollection g.name (g.collectionAt (s.slot g.name).collection m)

@[simp] theorem slot_storeAt (s : MemoryStore) (m : Milestone) :
    (g.storeAt s m).slot g.name = g.slotAt (s.slot g.name) m := by
  cases m <;> simp [storeAt, slotAt]

/-! ### Stage by stage -/

theorem ensureCollection_stops {e : Error}
    (h : g.obstacle (s.slot g.name) .untouched = some e) :
    Ends (ensureCollection g.name g.schema) r s (.error e) r.figures s := by
  have hcreated := MemoryStore.handle_createCollection s g.name g.schema level
  rw [obstacle, Option.or_eq_some_iff] at h
  rcases h with hcreate | ⟨hcreate, halter⟩
  · rw [hcreate] at hcreated
    exact (ends_lift hcreated (by rfl) (called (by trivial))).bind_error _
  · obtain ⟨c, hc, halter⟩ := Option.bind_eq_some_iff.1 halter
    have haltered := MemoryStore.handle_alterValidator s g.name g.schema level
    rw [hcreate, hc] at hcreated
    rw [halter] at haltered
    refine (ends_lift hcreated (by rfl) (called (by trivial))).bind fun r₁ hr₁ => ?_
    refine (ends_note _).bind fun r₂ hr₂ => ?_
    rw [← hr₁, ← hr₂]
    exact (ends_lift haltered (by rfl) (called (by trivial))).bind_error _

theorem ensureCollection_passes (h : g.obstacle (s.slot g.name) .untouched = none) :
    Ends (ensureCollection g.name g.schema) r s (.ok ()) r.figures (g.storeAt s .validated) := by
  have hcreated := MemoryStore.handle_createCollection s g.name g.schema level
  rw [obstacle, Option.or_eq_none_iff] at h
  obtain ⟨hcreate, halter⟩ := h
  cases hc : (s.slot g.name).collection? with
  | none =>
    -- a new collection gets the validator when it is created
    have hstore : g.storeAt s .validated = s.setCollection g.name
        { Collection.fresh with validator := some (g.schema, level) } := by
      simp [storeAt, collectionAt, Slot.collection, hc]
    rw [hcreate, hc] at hcreated
    rw [hstore]
    refine (ends_lift hcreated (by rfl) (called (by trivial))).bind fun r₁ hr₁ => ?_
    refine (ends_note _).bind fun r₂ hr₂ => ?_
    rw [← hr₁, ← hr₂]
    exact ends_liftExcept _
  | some c =>
    -- one that is there gets it by a call of its own
    have hstore : g.storeAt s .validated = s.setCollection g.name
        { c with validator := some (g.schema, level) } := by
      simp [storeAt, collectionAt, Slot.collection, hc]
    have haltered := MemoryStore.handle_alterValidator s g.name g.schema level
    rw [hcreate, hc] at hcreated
    rw [hc] at halter
    rw [show (s.slot g.name).refusal? _ _ = none from halter, hc] at haltered
    rw [hstore]
    refine (ends_lift hcreated (by rfl) (called (by trivial))).bind fun r₁ hr₁ => ?_
    refine (ends_note _).bind fun r₂ hr₂ => ?_
    refine (ends_lift haltered (by rfl) (called (by trivial))).bind fun r₃ hr₃ => ?_
    rw [← hr₁, ← hr₂, ← hr₃]
    exact ends_note _

theorem ensurePartitioning_stops {e : Error}
    (h : g.obstacle (s.slot g.name) .validated = some e) :
    Ends (ensurePartitioning g.dataset) r (g.storeAt s .validated) (.error e) r.figures
      (g.storeAt s .validated) := by
  have hanswer := MemoryStore.handle_partitionCollection (g.storeAt s .validated) g.name
    g.dataset.shardKey .hashed
  rw [slot_storeAt, refusal?_slotAt, collection_slotAt] at hanswer
  rw [obstacle, Option.or_eq_some_iff] at h
  rcases h with hrefused | ⟨hrefused, hconflict⟩
  · rw [hrefused] at hanswer
    exact (ends_lift hanswer (by rfl) (called (by trivial))).bind_error _
  · rw [hrefused] at hanswer
    rw [keyConflict?] at hconflict
    split at hconflict
    · cases hconflict
    · next field strategy hkey =>
      split at hconflict
      · cases hconflict
      · next hne =>
        cases hconflict
        simp only [collectionAt, hkey, if_neg hne] at hanswer
        exact (ends_lift hanswer (by rfl) (called (by trivial))).bind_error _

theorem ensurePartitioning_passes (h : g.obstacle (s.slot g.name) .validated = none) :
    Ends (ensurePartitioning g.dataset) r (g.storeAt s .validated) (.ok ()) r.figures
      (g.storeAt s .partitioned) := by
  have hanswer := MemoryStore.handle_partitionCollection (g.storeAt s .validated) g.name
    g.dataset.shardKey .hashed
  rw [slot_storeAt, refusal?_slotAt, collection_slotAt] at hanswer
  rw [obstacle, Option.or_eq_none_iff] at h
  obtain ⟨hrefused, hconflict⟩ := h
  rw [hrefused] at hanswer
  rw [keyConflict?] at hconflict
  -- a collection without a key gets its own; one that has it is left alone
  obtain ⟨outcome, hpartitioned⟩ : ∃ outcome, MemoryStore.handle
      (.partitionCollection g.name g.dataset.shardKey .hashed) (g.storeAt s .validated) =
        (.ok outcome, g.storeAt s .partitioned) := by
    split at hconflict
    · next hkey =>
      have hstore : (g.storeAt s .validated).setCollection g.name
          (g.collectionAt (s.slot g.name).collection .partitioned) = g.storeAt s .partitioned := by
        simp [storeAt]
      simp only [collectionAt, hkey] at hanswer
      rw [← hstore]
      exact ⟨_, hanswer⟩
    · next field strategy hkey =>
      split at hconflict
      · next heq =>
        obtain ⟨rfl, rfl⟩ := heq
        have hstore : g.storeAt s .validated = g.storeAt s .partitioned := by
          simp [storeAt, collectionAt, hkey]
        simp only [collectionAt, hkey, and_self, if_true] at hanswer
        rw [← hstore]
        exact ⟨_, hanswer⟩
      · cases hconflict
  refine (ends_lift hpartitioned (by rfl) (called (by trivial))).bind fun r₁ hr₁ => ?_
  rw [← hr₁]
  exact ends_note _

/-- Deletes the documents of the collection. -/
def clear : Stage Unit := do
  let deleted ← Stage.lift (Program.ask (Call.deleteAll g.name))
  modify fun r => { r with deleted := deleted }

/-- Inserts the loaded records. -/
def fill : Stage Unit := do
  if g.records.isEmpty then Stage.note "source is empty, insert skipped"
  else
    let inserted ← Stage.lift (Program.ask (Call.insertMany g.name g.records))
    modify fun r => { r with inserted := inserted }

theorem clear_stops {e : Error} (h : (s.slot g.name).refusal? "delete_all" g.name = some e) :
    Ends g.clear r (g.storeAt s .partitioned) (.error e) r.figures
      (g.storeAt s .partitioned) := by
  have hdeleted := MemoryStore.handle_deleteAll (g.storeAt s .partitioned) g.name
  rw [slot_storeAt, refusal?_slotAt, h] at hdeleted
  exact (ends_lift hdeleted (by rfl) (called (by trivial))).bind_error _

theorem clear_passes (h : (s.slot g.name).refusal? "delete_all" g.name = none) :
    Ends g.clear r (g.storeAt s .partitioned) (.ok ())
      { r.figures with deleted := (s.slot g.name).collection.documents.length }
      (g.storeAt s .cleared) := by
  have hdeleted : MemoryStore.handle (.deleteAll g.name) (g.storeAt s .partitioned) =
      (.ok (s.slot g.name).collection.documents.length, g.storeAt s .cleared) := by
    rw [MemoryStore.handle_deleteAll, slot_storeAt, refusal?_slotAt, h]
    simp [slotAt, storeAt, collectionAt, Slot.setCollection]
  refine (ends_lift hdeleted (by rfl) (called (by trivial))).bind fun r₁ hr₁ => ends_modify ?_
  rw [← hr₁]
  rfl

theorem check_of_mem_records : ∀ record ∈ g.records, g.schema.check record = .ok () := by
  intro record hrecord
  rw [records] at hrecord
  split at hrecord
  · next loaded hloaded => exact g.conforming loaded hloaded record hrecord
  · cases hrecord

/-- The validator that the work attached has nothing against the records it inserts. -/
theorem handle_insertMany_cleared :
    MemoryStore.handle (.insertMany g.name g.records) (g.storeAt s .cleared) =
      match (s.slot g.name).refusal? "insert_many" g.name with
      | some e => (.error e, g.storeAt s .cleared)
      | none => (.ok g.records.length, g.storeAt s .filled) := by
  have hvalidator : ((g.storeAt s .cleared).slot g.name).collection.validator =
      some (g.schema, level) := by
    rw [slot_storeAt, collection_slotAt]
    rfl
  rw [MemoryStore.handle_insertMany_of_check _ _ hvalidator g.check_of_mem_records, slot_storeAt,
    refusal?_slotAt, collection_slotAt]
  cases (s.slot g.name).refusal? "insert_many" g.name with
  | some e => rfl
  | none => simp [storeAt, collectionAt]

theorem sound_insertMany :
    Sound s.fault? (.insertMany g.name g.records)
      (MemoryStore.handle (.insertMany g.name g.records) (g.storeAt s .cleared)).1 := by
  rw [g.handle_insertMany_cleared]
  cases hfault : s.fault? "insert_many" g.name with
  | some fault =>
    rw [show (s.slot g.name).refusal? "insert_many" g.name = some _ from congrArg _ hfault]
    exact .inr ⟨fault, hfault, rfl⟩
  | none =>
    rw [show (s.slot g.name).refusal? "insert_many" g.name = none from congrArg _ hfault]
    exact .inl rfl

theorem fill_stops {e : Error} (h : g.obstacle (s.slot g.name) .cleared = some e) :
    Ends g.fill r (g.storeAt s .cleared) (.error e) r.figures (g.storeAt s .cleared) := by
  have hinserted := g.handle_insertMany_cleared (s := s)
  rw [obstacle] at h
  split at h
  · cases h
  · next hne =>
    rw [h] at hinserted
    rw [fill, if_neg (by simpa using hne)]
    exact (ends_lift hinserted (by rfl) (called g.sound_insertMany)).bind_error _

theorem fill_passes (h : g.obstacle (s.slot g.name) .cleared = none)
    (hfresh : r.inserted = 0) :
    Ends g.fill r (g.storeAt s .cleared) (.ok ()) { r.figures with inserted := g.records.length }
      (g.storeAt s .filled) := by
  have hinserted := g.handle_insertMany_cleared (s := s)
  rw [obstacle] at h
  split at h
  · next hempty =>
    -- there is nothing to insert, and to have inserted nothing is to be filled
    have hstore : g.storeAt s .cleared = g.storeAt s .filled := by
      simp [storeAt, collectionAt, hempty]
    have hfigures : { r.figures with inserted := g.records.length } = r.figures := by
      rw [hempty, List.length_nil, ← hfresh]
      rfl
    rw [fill, if_pos (by simpa using hempty), hfigures, hstore]
    exact ends_note _
  · next hne =>
    rw [h] at hinserted
    rw [fill, if_neg (by simpa using hne)]
    refine (ends_lift hinserted (by rfl) (called g.sound_insertMany)).bind fun r₁ hr₁ => ?_
    refine ends_modify ?_
    rw [← hr₁]
    rfl

theorem buildIndexes_stops {e : Error} (h : g.obstacle (s.slot g.name) .filled = some e) :
    Ends (buildIndexes g.name g.dataset.indexFields) r (g.storeAt s .filled) (.error e) r.figures
      (g.storeAt s .filled) := by
  rw [obstacle] at h
  split at h
  · cases h
  · next hne =>
    obtain ⟨field, rest, hfields⟩ := List.exists_cons_of_ne_nil hne
    have hindexed := MemoryStore.handle_createIndex (g.storeAt s .filled) g.name field
    rw [slot_storeAt, refusal?_slotAt, h] at hindexed
    rw [hfields, buildIndexes]
    exact (ends_lift hindexed (by rfl) (called (by trivial))).bind_error _

theorem ends_buildIndexes {name : String} {c : Collection} (fields : List String)
    (hc : (s.slot name).collection? = some c)
    (hfree : fields ≠ [] → (s.slot name).refusal? "create_index" name = none) :
    Ends (buildIndexes name fields) r s (.ok ())
      { r.figures with indexes := r.indexes ++ fields }
      (s.setCollection name { c with indexes := addIndexes c.indexes fields }) := by
  -- each field works on the collection that the fields before it left
  induction fields generalizing r s c with
  | nil =>
    have hfigures : { r.figures with indexes := r.indexes ++ [] } = r.figures := by
      rw [List.append_nil]
      rfl
    rw [hfigures, addIndexes, List.foldl_nil, MemoryStore.setCollection_eq_self hc]
    exact ends_liftExcept _
  | cons field rest ih =>
    have hindexed := MemoryStore.handle_createIndex s name field
    have hcollection : (s.slot name).collection = c := by
      rw [Slot.collection, hc]
      rfl
    have hadded : (if c.indexes.contains field then c
        else { c with indexes := c.indexes ++ [field] }) =
          { c with indexes := addIndexes c.indexes [field] } := by
      rw [addIndexes, List.foldl_cons, List.foldl_nil]
      split <;> rfl
    rw [hfree (List.cons_ne_nil _ _), hcollection, hadded] at hindexed
    refine (ends_lift hindexed (by rfl) (called (by trivial))).bind fun r₁ hr₁ => ?_
    refine (ends_modify rfl).bind fun r₂ hr₂ => ?_
    have hfigures : { r.figures with indexes := r.indexes ++ field :: rest } =
        { r₂.figures with indexes := r₂.indexes ++ rest } := by
      have hindexes₁ : r₁.indexes = r.indexes := (congrArg DatasetReport.indexes hr₁ :)
      have hindexes₂ : r₂.indexes = r₁.indexes ++ [field] :=
        (congrArg DatasetReport.indexes hr₂ :)
      rw [hr₂, hindexes₂, hindexes₁, List.append_assoc, ← hr₁]
      rfl
    have hstore : s.setCollection name
        { c with indexes := addIndexes c.indexes (field :: rest) } =
          (s.setCollection name { c with indexes := addIndexes c.indexes [field] }).setCollection
            name { c with indexes := addIndexes (addIndexes c.indexes [field]) rest } := by
      rw [MemoryStore.setCollection_setCollection]
      rfl
    rw [hfigures, hstore]
    refine ih (c := { c with indexes := addIndexes c.indexes [field] }) ?_ fun _ => ?_
    · rw [MemoryStore.slot_setCollection_self]
      rfl
    · rw [MemoryStore.slot_setCollection_self]
      exact hfree (List.cons_ne_nil _ _)

theorem buildIndexes_passes (h : g.obstacle (s.slot g.name) .filled = none) :
    Ends (buildIndexes g.name g.dataset.indexFields) r (g.storeAt s .filled) (.ok ())
      { r.figures with indexes := r.indexes ++ g.dataset.indexFields }
      (g.storeAt s .indexed) := by
  have hstore : g.storeAt s .indexed = (g.storeAt s .filled).setCollection g.name
      (g.collectionAt (s.slot g.name).collection .indexed) := by
    simp [storeAt]
  rw [hstore]
  refine ends_buildIndexes g.dataset.indexFields
    (c := g.collectionAt (s.slot g.name).collection .filled) ?_ fun hne => ?_
  · rw [slot_storeAt]
    rfl
  · rw [obstacle, if_neg hne] at h
    rw [slot_storeAt, refusal?_slotAt]
    exact h

/-! ### The work on a dataset -/

/-- The documents are replaced once the source is there. -/
def replace : Stage Unit := do
  let loaded ← provisionStages.liftExcept g.source
  replaceDocuments g.name loaded

/-- What is done for the goal. -/
def stages : Stage Unit := do
  ensureCollection g.name g.schema
  ensurePartitioning g.dataset
  g.replace
  buildIndexes g.name g.dataset.indexFields

theorem replace_eq {loaded : Source.Loaded} (h : g.source = .ok loaded) :
    g.replace =
      ((modify fun r => { r with unparseable := g.unparseable }) >>= fun _ =>
        g.clear >>= fun _ => g.fill) := by
  have hrecords : g.records = loaded.records := by rw [records, h]
  have hunparseable : g.unparseable = loaded.coercion.unparseable := by rw [unparseable, h]
  rw [replace, h, Stage.liftExcept_ok_bind, hunparseable, clear, fill, hrecords]
  simp only [bind_assoc]
  rfl

theorem provisionStages_eq {plan : Plan} {files : FileTree} {dataset : Dataset} {schema : Schema}
    (h : plan.registry.find dataset.name = .ok schema) :
    provisionStages plan files dataset = (ofDataset plan files dataset schema).stages := by
  rw [provisionStages, h, Stage.liftExcept_ok_bind]
  simp only [stages, replace, bind_assoc]
  rfl

/-- The rest of the work on a cleared collection. -/
theorem ends_cleared (hr : r.figures = g.figuresAt (s.slot g.name) .cleared) :
    let stop := g.firstStop (s.slot g.name) [.cleared, .filled]
    Ends (g.fill >>= fun _ => buildIndexes g.name g.dataset.indexFields) r (g.storeAt s .cleared)
      stop.2 (g.figuresAt (s.slot g.name) stop.1) (g.storeAt s stop.1) := by
  have hinserted : r.inserted = 0 := (congrArg DatasetReport.inserted hr :)
  cases hcleared : g.obstacle (s.slot g.name) .cleared with
  | some e =>
    simp only [firstStop, hcleared, ← hr]
    exact (g.fill_stops hcleared).bind_error _
  | none =>
    refine (g.fill_passes hcleared hinserted).bind fun r₁ hr₁ => ?_
    have hfigures : r₁.figures = g.figuresAt (s.slot g.name) .filled := by
      rw [hr₁, hr]
      rfl
    cases hfilled : g.obstacle (s.slot g.name) .filled with
    | some e =>
      simp only [firstStop, hcleared, hfilled, ← hfigures]
      exact g.buildIndexes_stops hfilled
    | none =>
      have hindexes : r₁.indexes = [] := (congrArg DatasetReport.indexes hfigures :)
      have hpassed := g.buildIndexes_passes (r := r₁) hfilled
      rw [hfigures, hindexes] at hpassed
      simp only [firstStop, hcleared, hfilled]
      exact hpassed

/-- The rest of the work on a partitioned collection. -/
theorem ends_partitioned (hr : r.figures = .start g.name) :
    let stop := g.firstStop (s.slot g.name) [.partitioned, .cleared, .filled]
    Ends (g.replace >>= fun _ => buildIndexes g.name g.dataset.indexFields) r
      (g.storeAt s .partitioned) stop.2 (g.figuresAt (s.slot g.name) stop.1)
      (g.storeAt s stop.1) := by
  cases hsource : g.source with
  | error e =>
    -- the source is read before anything is deleted
    have hstop : g.obstacle (s.slot g.name) .partitioned = some e := by rw [obstacle, hsource]
    have hreplace : g.replace = provisionStages.liftExcept (.error e) := by
      rw [replace, hsource, Stage.liftExcept_error_bind]
    have hfigures : g.figuresAt (s.slot g.name) .partitioned = r.figures := by
      rw [hr, figuresAt, unparseable, hsource]
      rfl
    simp only [firstStop, hstop, hfigures, hreplace]
    exact ends_liftExcept _
  | ok loaded =>
    rw [g.replace_eq hsource]
    simp only [bind_assoc]
    refine (ends_modify rfl).bind fun r₁ hr₁ => ?_
    have hfigures₁ : r₁.figures = g.figuresAt (s.slot g.name) .partitioned := by
      have hset : r₁.figures = { r.figures with unparseable := g.unparseable } := hr₁
      rw [hset, hr]
      rfl
    cases hdelete : (s.slot g.name).refusal? "delete_all" g.name with
    | some e =>
      have hstop : g.obstacle (s.slot g.name) .partitioned = some e := by
        rw [obstacle, hsource, hdelete]
      simp only [firstStop, hstop, ← hfigures₁]
      exact (g.clear_stops hdelete).bind_error _
    | none =>
      have hpass : g.obstacle (s.slot g.name) .partitioned = none := by
        rw [obstacle, hsource, hdelete]
      rw [firstStop, hpass]
      refine (g.clear_passes hdelete).bind fun r₂ hr₂ => g.ends_cleared ?_
      rw [hr₂, hfigures₁]
      rfl

/-- **How the work on a dataset ends**: as the course of its goal says. -/
theorem ends_stages (hr : r.figures = .start g.name) :
    let stop := g.course (s.slot g.name)
    Ends g.stages r s stop.2 (g.figuresAt (s.slot g.name) stop.1) (g.storeAt s stop.1) := by
  rw [stages, course, Milestone.passed]
  cases huntouched : g.obstacle (s.slot g.name) .untouched with
  | some e =>
    have hfigures : g.figuresAt (s.slot g.name) .untouched = r.figures := hr.symm
    simp only [firstStop, huntouched, hfigures]
    exact (g.ensureCollection_stops huntouched).bind_error _
  | none =>
    refine (g.ensureCollection_passes huntouched).bind fun r₁ hr₁ => ?_
    cases hvalidated : g.obstacle (s.slot g.name) .validated with
    | some e =>
      have hfigures : g.figuresAt (s.slot g.name) .validated = r₁.figures := (hr₁.trans hr).symm
      simp only [firstStop, huntouched, hvalidated, hfigures]
      exact (g.ensurePartitioning_stops hvalidated).bind_error _
    | none =>
      have hrest : g.firstStop (s.slot g.name)
          [.untouched, .validated, .partitioned, .cleared, .filled] =
            g.firstStop (s.slot g.name) [.partitioned, .cleared, .filled] := by
        rw [firstStop, huntouched]
        simp only []
        rw [firstStop, hvalidated]
      rw [hrest]
      refine (g.ensurePartitioning_passes hvalidated).bind fun r₂ hr₂ => ?_
      exact g.ends_partitioned (hr₂.trans (hr₁.trans hr))

end Goal

end Provision

end BulkProvision
