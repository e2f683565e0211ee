import BulkProvision.Proofs.CallOrder
import BulkProvision.Proofs.Slot

/-!
# Datasets do not interfere

A call about a collection looks at the slot of that collection and at nothing else, and changes
nothing else (`MemoryStore.handle_of_slot`).  The work on a dataset calls only about its own
collection, so over stores with the same slot it goes the same way, remarks included
(`run_of_slot_eq`), and it leaves all other slots alone (`frame_of_run`).

Hence every dataset of a walk fares as if it were `alone` with the store that the walk found, and
the walk ends at the first that would end it by itself (`isolated_provisionDatasets`).
-/

namespace BulkProvision

namespace Store

/-- The collection that a call is about.  Calls about databases, users and connections are about
none. -/
def Call.collection? : Call → Option String
  | createCollection name .. => some name
  | alterValidator name .. => some name
  | enablePartitioning _ => none
  | partitionCollection name .. => some name
  | deleteAll name => some name
  | insertMany name _ => some name
  | createIndex name _ => some name
  | ensureUser _ => none
  | countDocuments name => some name
  | listIndexFields name => some name
  | close => none

namespace MemoryStore

theorem refusal?_of_collection? {call : Call} {name : String} (h : call.collection? = some name)
    (s : MemoryStore) : s.refusal? call = (s.slot name).refusal? call.operation name := by
  cases call <;> cases h <;> rfl

/-- What is answered where no fault is injected is decided by the slot: the answer, and the state
that the collection is given, if it is given one. -/
theorem answer_of_slot {call : Call} {name : String} (h : call.collection? = some name)
    (k : Slot) : ∃ (answer : call.Answer) (given : Option Collection), ∀ s : MemoryStore,
      s.slot name = k → s.answer call = (answer, given.elim s (s.setCollection name)) := by
  have hget (s : MemoryStore) (hs : s.slot name = k) : s.collections.get? name = k.collection? :=
    congrArg Slot.collection? hs
  have hcollection (s : MemoryStore) (hs : s.slot name = k) : s.collection name = k.collection :=
    congrArg Slot.collection hs
  cases call with
  | createCollection n schema level =>
    obtain rfl := Option.some.inj h
    cases hc : k.collection? with
    | none => exact ⟨_, some _, fun s hs => by rw [answer, hget s hs, hc]; rfl⟩
    | some c => exact ⟨_, none, fun s hs => by rw [answer, hget s hs, hc]; rfl⟩
  | alterValidator n schema level =>
    obtain rfl := Option.some.inj h
    cases hc : k.collection? with
    | none => exact ⟨_, none, fun s hs => by rw [answer, hget s hs, hc]; rfl⟩
    | some c => exact ⟨_, some _, fun s hs => by rw [answer, hget s hs, hc]; rfl⟩
  | partitionCollection n field strategy =>
    obtain rfl := Option.some.inj h
    cases hkey : k.collection.shardKey with
    | none =>
      exact ⟨_, some _, fun s hs => by rw [answer_partitionCollection, hs, hkey]; rfl⟩
    | some key =>
      by_cases heq : key.1 = field ∧ key.2 = strategy
      · exact ⟨_, none, fun s hs => by
          simp only [answer_partitionCollection, hs, hkey, if_pos heq]; rfl⟩
      · exact ⟨_, none, fun s hs => by
          simp only [answer_partitionCollection, hs, hkey, if_neg heq]; rfl⟩
  | deleteAll n =>
    obtain rfl := Option.some.inj h
    cases hc : k.collection? with
    | none => exact ⟨_, none, fun s hs => by rw [answer, hget s hs, hc]; rfl⟩
    | some c => exact ⟨_, some _, fun s hs => by rw [answer, hget s hs, hc]; rfl⟩
  | insertMany n records =>
    obtain rfl := Option.some.inj h
    cases hfound : k.collection.guard?.bind (firstViolation? · records) with
    | none => exact ⟨_, some _, fun s hs => by simp only [answer_insertMany, hs, hfound]; rfl⟩
    | some found => exact ⟨_, none, fun s hs => by simp only [answer_insertMany, hs, hfound]; rfl⟩
  | createIndex n field =>
    obtain rfl := Option.some.inj h
    exact ⟨_, some _, fun s hs => by rw [answer_createIndex, hs]; rfl⟩
  | countDocuments n =>
    obtain rfl := Option.some.inj h
    exact ⟨_, none, fun s hs => by rw [answer, hcollection s hs]; rfl⟩
  | listIndexFields n =>
    obtain rfl := Option.some.inj h
    cases hc : k.collection? with
    | none => exact ⟨_, none, fun s hs => by rw [answer, hget s hs, hc]; rfl⟩
    | some c => exact ⟨_, none, fun s hs => by rw [answer, hget s hs, hc]; rfl⟩
  | _ => cases h

/-- **A call about a collection** looks at its slot and changes nothing else. -/
theorem handle_of_slot {call : Call} {name : String} (h : call.collection? = some name)
    (k : Slot) : ∃ (answer : call.Answer) (given : Option Collection), ∀ s : MemoryStore,
      s.slot name = k → handle call s = (answer, given.elim s (s.setCollection name)) := by
  cases hrefusal : k.refusal? call.operation name with
  | some e =>
    refine ⟨call.failure e, none, fun s hs => ?_⟩
    rw [handle, refusal?_of_collection? h, hs, hrefusal]
    rfl
  | none =>
    obtain ⟨answer, given, hanswer⟩ := answer_of_slot h k
    refine ⟨answer, given, fun s hs => ?_⟩
    rw [handle, refusal?_of_collection? h, hs, hrefusal, ← hanswer s hs]

/-! ### Programs that call about one collection -/

/-- The calls among some steps are all about one collection. -/
def CallsOn {ε : Type} (name : String) (steps : List (Program.Step Call Call.Answer ε)) : Prop :=
  ∀ call answer, .called call answer ∈ steps → call.collection? = some name

section Programs

variable {ε α : Type} {name : String} {s t : MemoryStore}

theorem slot_given (hslot : t.slot name = s.slot name) (given : Option Collection) :
    (given.elim t (t.setCollection name)).slot name =
      (given.elim s (s.setCollection name)).slot name := by
  cases given with
  | none => exact hslot
  | some c => simp only [Option.elim_some, slot_setCollection_self, hslot]

theorem frame_given (name : String) (s : MemoryStore) (given : Option Collection) :
    Frame [name] s (given.elim s (s.setCollection name)) := by
  cases given with
  | none => exact .refl _ s
  | some c => exact frame_setCollection s name c

theorem CallsOn.tail {step : Program.Step Call Call.Answer ε}
    {steps : List (Program.Step Call Call.Answer ε)} (h : CallsOn name (step :: steps)) :
    CallsOn name steps :=
  fun call answer hcalled => h call answer (List.mem_cons_of_mem _ hcalled)

/-- Other collections stay as they are, and so does all else. -/
theorem frame_of_run {p : StoreProgram ε α} (h : CallsOn name (p.run handle s).steps) :
    Frame [name] s (p.run handle s).state := by
  induction p generalizing s with
  | done value => exact .refl _ s
  | emit event next ih => exact ih h.tail
  | call op next ih =>
    obtain ⟨answer, given, hanswer⟩ := handle_of_slot (h op _ List.mem_cons_self) (s.slot name)
    simp only [Program.run_call, hanswer s rfl] at h ⊢
    exact (frame_given name s given).trans (ih answer h.tail)

/-- A program that calls about one collection only goes the same way over every store with the same
slot. -/
theorem run_of_slot_eq {p : StoreProgram ε α} (h : CallsOn name (p.run handle s).steps)
    (hslot : t.slot name = s.slot name) :
    (p.run handle t).value = (p.run handle s).value ∧
      (p.run handle t).steps = (p.run handle s).steps ∧
      (p.run handle t).state.slot name = (p.run handle s).state.slot name := by
  induction p generalizing s t with
  | done value => exact ⟨rfl, rfl, hslot⟩
  | emit event next ih =>
    obtain ⟨hvalue, hsteps, hstate⟩ := ih h.tail hslot
    exact ⟨hvalue, congrArg (List.cons _) hsteps, hstate⟩
  | call op next ih =>
    obtain ⟨answer, given, hanswer⟩ := handle_of_slot (h op _ List.mem_cons_self) (s.slot name)
    simp only [Program.run_call, hanswer s rfl, hanswer t hslot] at h ⊢
    obtain ⟨hvalue, hsteps, hstate⟩ := ih answer h.tail (slot_given hslot given)
    exact ⟨hvalue, congrArg (List.cons _) hsteps, hstate⟩

end Programs

end MemoryStore

end Store

namespace Provision

open Store Verify

variable {plan : Plan} {files : FileTree} {dataset : Dataset} {datasets : List Dataset}
  {s t : MemoryStore}

/-! ### One dataset -/

/-- The agenda of a dataset is about its collection. -/
theorem collection?_of_mem_agenda {schema : Schema} {existed : Bool}
    {source : Except Error Source.Loaded} {call : Call}
    (h : call ∈ agenda dataset schema existed source) : call.collection? = some dataset.name := by
  rcases mem_agenda h with rfl | rfl | rfl | h
  · rfl
  · rfl
  · rfl
  · obtain ⟨loaded, -, rfl | ⟨-, rfl⟩ | ⟨field, rfl⟩⟩ := mem_refill h
    · rfl
    · rfl
    · rfl

theorem Block.callsOn {steps : List StoreStep} {ended : Except Error Unit}
    (h : Block plan files dataset steps ended) : MemoryStore.CallsOn dataset.name steps := by
  intro call answer hcalled
  cases h with
  | unknown => cases hcalled
  | followed _ _ hasked =>
    obtain ⟨call', answer', heq, hmem⟩ := hasked.mem hcalled
    cases heq
    exact collection?_of_mem_agenda hmem

section Alone

variable (plan files s)

/-- The work on a dataset as if it were the only one. -/
def alone (dataset : Dataset) :
    Program.Run Call Call.Answer DatasetReport MemoryStore (Except Error Unit × DatasetReport) :=
  (provisionDataset plan files dataset).run MemoryStore.handle s

/-- The error by which a dataset ends a run. -/
def stop? (dataset : Dataset) : Option Error := fatal? (alone plan files s dataset).value.1

/-- The report of a dataset. -/
def reportOf (dataset : Dataset) : DatasetReport := announced (alone plan files s dataset).value

/-- The datasets before the first that ends the run. -/
def completed (datasets : List Dataset) : List Dataset :=
  datasets.takeWhile fun dataset => (stop? plan files s dataset).isNone

/-- The datasets that are worked on: the first that ends the run is the last of them. -/
def reached (datasets : List Dataset) : List Dataset :=
  datasets.take ((completed plan files s datasets).length + 1)

theorem callsOn_alone (dataset : Dataset) :
    MemoryStore.CallsOn dataset.name (alone plan files s dataset).steps :=
  (block_provisionDataset MemoryStore.handle plan files dataset s).callsOn

theorem name_reportOf (dataset : Dataset) :
    (reportOf plan files s dataset).name = dataset.name :=
  name_announced MemoryStore.handle plan files dataset s

theorem events_alone (dataset : Dataset) : (alone plan files s dataset).events = [] :=
  events_provisionDataset MemoryStore.handle plan files dataset s

/-! ### Datasets one after the other -/

/-- What a walk over datasets does, if each of them fares as over the store `s`: `t` is the store
that the walk starts from. -/
structure Isolated (datasets : List Dataset) (t : MemoryStore)
    (walk : Program.Run Call Call.Answer DatasetReport MemoryStore
      (Except Error (List DatasetReport))) : Prop where
  value : walk.value =
    match datasets.findSome? (stop? plan files s) with
    | some e => .error e
    | none => .ok (datasets.map (reportOf plan files s))
  events : walk.events = (completed plan files s datasets).map (reportOf plan files s)
  slot : ∀ dataset ∈ reached plan files s datasets,
    walk.state.slot dataset.name = (alone plan files s dataset).state.slot dataset.name
  frame : MemoryStore.Frame ((reached plan files s datasets).map Dataset.name) t walk.state
  called : ∀ call answer, .called call answer ∈ walk.steps →
    ∃ dataset ∈ datasets, .called call answer ∈ (alone plan files s dataset).steps

variable {plan files s}

theorem completed_cons_of_none (h : stop? plan files s dataset = none) :
    completed plan files s (dataset :: datasets) =
      dataset :: completed plan files s datasets :=
  List.takeWhile_cons_of_pos (by rw [h]; rfl)

theorem completed_cons_of_some {e : Error} (h : stop? plan files s dataset = some e) :
    completed plan files s (dataset :: datasets) = [] :=
  List.takeWhile_cons_of_neg (by rw [h]; exact Bool.false_ne_true)

theorem reached_cons_of_none (h : stop? plan files s dataset = none) :
    reached plan files s (dataset :: datasets) = dataset :: reached plan files s datasets := by
  rw [reached, completed_cons_of_none h]
  rfl

theorem reached_cons_of_some {e : Error} (h : stop? plan files s dataset = some e) :
    reached plan files s (dataset :: datasets) = [dataset] := by
  rw [reached, completed_cons_of_some h]
  rfl

/-- A walk that no dataset ends works on all of them. -/
theorem reached_eq_self (h : ∀ dataset ∈ datasets, stop? plan files s dataset = none) :
    reached plan files s datasets = datasets := by
  induction datasets with
  | nil => rfl
  | cons dataset rest ih =>
    rw [reached_cons_of_none (h dataset List.mem_cons_self),
      ih fun d hd => h d (List.mem_cons_of_mem _ hd)]

/-- What is worked on when a dataset in the middle ends the walk. -/
theorem completed_append_cons {e : Error} {before after : List Dataset}
    (hnone : ∀ d ∈ before, stop? plan files s d = none)
    (hstop : stop? plan files s dataset = some e) :
    completed plan files s (before ++ dataset :: after) = before := by
  induction before with
  | nil => exact completed_cons_of_some hstop
  | cons d rest ih =>
    rw [List.cons_append, completed_cons_of_none (hnone d List.mem_cons_self),
      ih fun d hd => hnone d (List.mem_cons_of_mem _ hd)]

/-- A walk that its first dataset ends. -/
theorem Isolated.stop {e : Error} {u : MemoryStore} (hstop : stop? plan files s dataset = some e)
    (hslot : u.slot dataset.name = (alone plan files s dataset).state.slot dataset.name)
    (hframe : MemoryStore.Frame [dataset.name] t u) :
    Isolated plan files s (dataset :: datasets) t
      ⟨.error e, (alone plan files s dataset).steps, u⟩ := by
  refine ⟨?_, ?_, ?_, ?_, fun call answer hcalled => ?_⟩
  · rw [List.findSome?_cons, hstop]
  · rw [completed_cons_of_some hstop]
    exact events_alone plan files s dataset
  · rw [reached_cons_of_some hstop]
    exact List.forall_mem_singleton.2 hslot
  · rw [reached_cons_of_some hstop]
    exact hframe
  · exact ⟨dataset, List.mem_cons_self, hcalled⟩

/-- A walk that goes on after its first dataset. -/
theorem Isolated.cons {u : MemoryStore}
    {others : Program.Run Call Call.Answer DatasetReport MemoryStore
      (Except Error (List DatasetReport))} (hstop : stop? plan files s dataset = none)
    (hslot : u.slot dataset.name = (alone plan files s dataset).state.slot dataset.name)
    (hframe : MemoryStore.Frame [dataset.name] t u)
    (hname : dataset.name ∉ datasets.map Dataset.name)
    (hothers : Isolated plan files s datasets u others) :
    Isolated plan files s (dataset :: datasets) t
      ⟨others.value.map (reportOf plan files s dataset :: ·),
        (alone plan files s dataset).steps ++
          .emitted (reportOf plan files s dataset) :: others.steps, others.state⟩ := by
  -- the names are distinct, so the others leave this collection as it is now
  have hnot : dataset.name ∉ (reached plan files s datasets).map Dataset.name := by
    intro hmem
    obtain ⟨d, hd, heq⟩ := List.mem_map.1 hmem
    exact hname (heq ▸ List.mem_map_of_mem (List.mem_of_mem_take hd))
  refine ⟨?_, ?_, ?_, ?_, fun call answer hcalled => ?_⟩
  · rw [hothers.value, List.findSome?_cons, hstop]
    cases datasets.findSome? (stop? plan files s) <;> rfl
  · have hsilent := events_alone plan files s dataset
    rw [completed_cons_of_none hstop, List.map_cons, ← hothers.events]
    simp only [Program.Run.events] at hsilent ⊢
    rw [List.filterMap_append, hsilent, List.nil_append, List.filterMap_cons]
  · rw [reached_cons_of_none hstop]
    refine List.forall_mem_cons.2 ⟨?_, hothers.slot⟩
    rw [hothers.frame.slot _ hnot, hslot]
  · rw [reached_cons_of_none hstop, List.map_cons]
    refine .trans (hframe.mono fun name hmem => ?_) (hothers.frame.mono fun name hmem => ?_)
    · exact List.mem_singleton.1 hmem ▸ List.mem_cons_self
    · exact List.mem_cons_of_mem _ hmem
  · rcases List.mem_append.1 hcalled with hcalled | hcalled
    · exact ⟨dataset, List.mem_cons_self, hcalled⟩
    · rcases List.mem_cons.1 hcalled with heq | hcalled
      · cases heq
      · obtain ⟨d, hd, hmem⟩ := hothers.called call answer hcalled
        exact ⟨d, List.mem_cons_of_mem _ hd, hmem⟩

/-- **Every dataset of a walk fares as if it were alone**, up to the first that ends the walk. -/
theorem isolated_provisionDatasets (hnames : (datasets.map Dataset.name).Nodup)
    (hslots : ∀ dataset ∈ datasets, t.slot dataset.name = s.slot dataset.name) :
    Isolated plan files s datasets t
      ((provisionDatasets plan files datasets).run MemoryStore.handle t) := by
  induction datasets generalizing t with
  | nil =>
    rw [run_provisionDatasets_nil]
    exact ⟨rfl, rfl, nofun, .refl _ t, nofun⟩
  | cons dataset rest ih =>
    obtain ⟨hdataset, hrest⟩ := List.nodup_cons.1 hnames
    obtain ⟨hvalue, hsteps, hslot⟩ := MemoryStore.run_of_slot_eq
      (callsOn_alone plan files s dataset) (hslots dataset List.mem_cons_self)
    have hframe := MemoryStore.frame_of_run (callsOn_alone plan files t dataset)
    rw [run_provisionDatasets_cons]
    generalize (provisionDataset plan files dataset).run MemoryStore.handle t = first
      at hvalue hsteps hslot hframe ⊢
    have hfatal : fatal? first.value.1 = stop? plan files s dataset := by rw [hvalue]; rfl
    have hreport : announced first.value = reportOf plan files s dataset := by rw [hvalue]; rfl
    cases hstop : stop? plan files s dataset with
    | some e =>
      simp only [hfatal, hstop, hsteps]
      exact .stop hstop hslot hframe
    | none =>
      -- the others still find the slots that were there at the start
      have hothers : ∀ d ∈ rest, first.state.slot d.name = s.slot d.name := by
        intro d hd
        have hne : d.name ∉ [dataset.name] := fun h =>
          hdataset (List.mem_singleton.1 h ▸ List.mem_map_of_mem hd)
        rw [hframe.slot _ hne, hslots d (List.mem_cons_of_mem _ hd)]
      simp only [hfatal, hstop, hreport, hsteps]
      exact .cons hstop hslot hframe hdataset (ih hrest hothers)

end Alone

end Provision

end BulkProvision
