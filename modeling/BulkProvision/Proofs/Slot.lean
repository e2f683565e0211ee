import BulkProvision.Store.Memory

/-!
# One collection of a store in memory

A call on a collection looks at nothing else of a store than that collection and the faults
injected for it: its `Slot`; each operation has its equation in terms of the slot
(`MemoryStore.handle_createCollection` and so on).  `MemoryStore.Frame names s t` says that two
stores differ at most in the collections of these names, and `MemoryStore.Frame.eq` that such
stores are equal when they agree there as well.
-/

namespace BulkProvision

namespace Store

/-- What a store in memory holds about one collection: the collection, if it exists, and the faults
injected for it, by operation. -/
structure Slot where
  collection? : Option Collection
  fault? : String → Option Fault

namespace Slot

/-- The collection of a slot, fresh if it does not exist. -/
def collection (k : Slot) : Collection := k.collection?.getD .fresh

/-- The error by which an operation on the collection is refused, whatever its state. -/
def refusal? (k : Slot) (operation name : String) : Option Error :=
  (k.fault? operation).map (Fault.error operation name)

/-- The slot with another state of its collection. -/
def setCollection (k : Slot) (c : Collection) : Slot := { k with collection? := some c }

@[simp] theorem collection_setCollection (k : Slot) (c : Collection) :
    (k.setCollection c).collection = c := rfl

@[simp] theorem setCollection_setCollection (k : Slot) (c d : Collection) :
    (k.setCollection c).setCollection d = k.setCollection d := rfl

/-- What does not exist counts as fresh, without a shard key and without a validator. -/
theorem isSome_of_ne_fresh {k : Slot} (h : k.collection ≠ .fresh) : k.collection?.isSome := by
  rw [Option.isSome_iff_ne_none]
  intro hnone
  exact h (by rw [collection, hnone, Option.getD_none])

end Slot

namespace MemoryStore

/-- The slot of a collection. -/
def slot (s : MemoryStore) (name : String) : Slot :=
  ⟨s.collections.get? name, fun operation => s.fault? operation name⟩

theorem slot_setCollection (s : MemoryStore) (name key : String) (c : Collection) :
    (s.setCollection name c).slot key =
      if name = key then (s.slot key).setCollection c else s.slot key := by
  rw [slot, setCollection, NameMap.get?_insert]
  split <;> rfl

@[simp] theorem slot_setCollection_self (s : MemoryStore) (name : String) (c : Collection) :
    (s.setCollection name c).slot name = (s.slot name).setCollection c := by
  rw [slot_setCollection, if_pos rfl]

@[simp] theorem setCollection_setCollection (s : MemoryStore) (name : String) (c d : Collection) :
    (s.setCollection name c).setCollection name d = s.setCollection name d := by
  simp [setCollection]

/-- The views of a collection that exists. -/
theorem views_of_slot {s : MemoryStore} {name : String} {c : Collection}
    (h : (s.slot name).collection? = some c) :
    s.collection name = c ∧ s.shardKey? name = c.shardKey ∧ s.validator? name = c.validator := by
  have hget : s.collections.get? name = some c := h
  rw [collection, shardKey?, validator?, hget]
  exact ⟨rfl, rfl, rfl⟩

theorem shardKey?_setCollection_self (s : MemoryStore) (name : String) (c : Collection) :
    (s.setCollection name c).shardKey? name = c.shardKey := by
  rw [shardKey?, setCollection, NameMap.get?_insert_self]
  rfl

/-- The shard key of a collection that may not exist. -/
theorem shardKey?_eq (s : MemoryStore) (name : String) :
    s.shardKey? name = (s.collection name).shardKey := by
  rw [shardKey?, collection]
  cases s.collections.get? name <;> rfl

/-- The validator of a collection that may not exist. -/
theorem validator?_eq (s : MemoryStore) (name : String) :
    s.validator? name = (s.collection name).validator := by
  rw [validator?, collection]
  cases s.collections.get? name <;> rfl

theorem setCollection_eq_self {s : MemoryStore} {name : String} {c : Collection}
    (h : (s.slot name).collection? = some c) : s.setCollection name c = s := by
  rw [setCollection, NameMap.insert_eq_self h]

/-! ### Making a collection -/

@[simp] theorem collection_opened (s : MemoryStore) (name : String) :
    (s.opened name).collection name = (s.slot name).collection := by
  rw [opened, collection, setCollection, NameMap.get?_insert_self]
  rfl

@[simp] theorem setCollection_opened (s : MemoryStore) (name : String) (c : Collection) :
    (s.opened name).setCollection name c = s.setCollection name c :=
  s.setCollection_setCollection name _ c

/-- A collection that is there is not made again. -/
theorem opened_eq_self {s : MemoryStore} {name : String} (h : (s.slot name).collection?.isSome) :
    s.opened name = s := by
  obtain ⟨c, hc⟩ := Option.isSome_iff_exists.1 h
  rw [opened, (views_of_slot hc).1, setCollection_eq_self hc]

/-! ### Operations, by slot -/

/-- Nothing is found in a batch exactly when all of it conforms. -/
theorem firstViolation?_eq_none_iff {schema : Schema} {records : List Record} :
    firstViolation? schema records = none ↔ ∀ record ∈ records, schema.check record = .ok () := by
  have hgo (index : Nat) : firstViolation?.go schema index records = none ↔
      ∀ record ∈ records, schema.check record = .ok () := by
    induction records generalizing index with
    | nil => simp [firstViolation?.go]
    | cons record rest ih =>
      rw [firstViolation?.go, List.forall_mem_cons]
      cases hcheck : schema.check record with
      | error violation => simp
      | ok u => simp [ih]
  exact hgo 0

section Operations

variable (s : MemoryStore) (name : String)

theorem handle_createCollection (schema : Schema) (level : Enforcement) :
    handle (.createCollection name schema level) s =
      match (s.slot name).refusal? "create_collection" name with
      | some e => (.error e, s)
      | none =>
        match (s.slot name).collection? with
        | some _ => (.ok (.alreadySatisfied ("collection " ++ name ++ " already exists")), s)
        | none =>
          (.ok (.applied ("created collection " ++ name ++ " with validation schema")),
            s.setCollection name { Collection.fresh with validator := some (schema, level) }) :=
  rfl

theorem handle_alterValidator (schema : Schema) (level : Enforcement) :
    handle (.alterValidator name schema level) s =
      match (s.slot name).refusal? "alter_collection_validator" name with
      | some e => (.error e, s)
      | none =>
        match (s.slot name).collection? with
        | none => (.error (missing (.alterValidator name schema level)), s)
        | some c => (.ok (), s.setCollection name { c with validator := some (schema, level) }) :=
  rfl

theorem answer_partitionCollection (field : String) (strategy : KeyStrategy) :
    s.answer (.partitionCollection name field strategy) =
      match (s.slot name).collection.shardKey with
      | none =>
        (.ok (.applied ("sharded collection " ++ name ++ " by " ++ field)),
          s.setCollection name { (s.slot name).collection with shardKey := some (field, strategy) })
      | some (present, how) =>
        if present = field ∧ how = strategy then
          (.ok (.alreadySatisfied ("collection " ++ name ++ " already sharded by " ++ field)), s)
        else
          (.error (.rejected "partition_collection" name
            ("already sharded with a different key (" ++ present ++ ")")), s) := by
  simp only [answer, collection_opened, setCollection_opened]
  cases hkey : (s.slot name).collection.shardKey with
  | none => rfl
  | some key =>
    -- a collection with a key was there before
    have hopened : s.opened name = s := opened_eq_self <| Slot.isSome_of_ne_fresh fun h =>
      Option.some_ne_none key (hkey.symm.trans (congrArg Collection.shardKey h))
    rw [hopened]

theorem handle_partitionCollection (field : String) (strategy : KeyStrategy) :
    handle (.partitionCollection name field strategy) s =
      match (s.slot name).refusal? "partition_collection" name with
      | some e => (.error e, s)
      | none =>
        match (s.slot name).collection.shardKey with
        | none =>
          (.ok (.applied ("sharded collection " ++ name ++ " by " ++ field)),
            s.setCollection name
              { (s.slot name).collection with shardKey := some (field, strategy) })
        | some (present, how) =>
          if present = field ∧ how = strategy then
            (.ok (.alreadySatisfied ("collection " ++ name ++ " already sharded by " ++ field)), s)
          else
            (.error (.rejected "partition_collection" name
              ("already sharded with a different key (" ++ present ++ ")")), s) := by
  rw [← answer_partitionCollection]
  rfl

theorem handle_deleteAll :
    handle (.deleteAll name) s =
      match (s.slot name).refusal? "delete_all" name with
      | some e => (.error e, s)
      | none =>
        match (s.slot name).collection? with
        | none => (.ok 0, s)
        | some c => (.ok c.documents.length, s.setCollection name { c with documents := [] }) :=
  rfl

theorem answer_insertMany (records : List Record) :
    s.answer (.insertMany name records) =
      match (s.slot name).collection.guard?.bind (firstViolation? · records) with
      | some (index, violation) =>
        (.error (.rejected "insert_many" name
          ("Document failed validation (index " ++ toString index ++ "): " ++
            violation.message)), s)
      | none =>
        (.ok records.length, s.setCollection name
          { (s.slot name).collection with
            documents := (s.slot name).collection.documents ++ records }) := by
  simp only [answer, collection_opened, setCollection_opened]
  cases hfound : (s.slot name).collection.guard?.bind (firstViolation? · records) with
  | none => rfl
  | some found =>
    -- a collection with a validator was there before
    have hopened : s.opened name = s := opened_eq_self <| Slot.isSome_of_ne_fresh fun h => by
      rw [h] at hfound
      cases hfound
    rw [hopened]

theorem handle_insertMany (records : List Record) :
    handle (.insertMany name records) s =
      match (s.slot name).refusal? "insert_many" name with
      | some e => (.error e, s)
      | none =>
        match (s.slot name).collection.guard?.bind (firstViolation? · records) with
        | some (index, violation) =>
          (.error (.rejected "insert_many" name
            ("Document failed validation (index " ++ toString index ++ "): " ++
              violation.message)), s)
        | none =>
          (.ok records.length, s.setCollection name
            { (s.slot name).collection with
              documents := (s.slot name).collection.documents ++ records }) := by
  rw [← answer_insertMany]
  rfl

/-- A batch of conforming records is taken, whatever the level of the validator. -/
theorem handle_insertMany_of_check {schema : Schema} {level : Enforcement}
    {records : List Record}
    (hvalidator : (s.slot name).collection.validator = some (schema, level))
    (hrecords : ∀ record ∈ records, schema.check record = .ok ()) :
    handle (.insertMany name records) s =
      match (s.slot name).refusal? "insert_many" name with
      | some e => (.error e, s)
      | none =>
        (.ok records.length, s.setCollection name
          { (s.slot name).collection with
            documents := (s.slot name).collection.documents ++ records }) := by
  -- a strict validator finds nothing, a moderate one does not look
  have hguard : ((s.slot name).collection.guard?.bind (firstViolation? · records)) = none := by
    rw [Collection.guard?, hvalidator]
    cases level with
    | strict => exact firstViolation?_eq_none_iff.2 hrecords
    | moderate => rfl
  rw [handle_insertMany, hguard]

theorem answer_createIndex (field : String) :
    s.answer (.createIndex name field) =
      (.ok (), s.setCollection name
        (if (s.slot name).collection.indexes.contains field then (s.slot name).collection
        else
          { (s.slot name).collection with
            indexes := (s.slot name).collection.indexes ++ [field] })) := by
  simp only [answer, collection_opened, setCollection_opened]

theorem handle_createIndex (field : String) :
    handle (.createIndex name field) s =
      match (s.slot name).refusal? "create_index" name with
      | some e => (.error e, s)
      | none =>
        (.ok (), s.setCollection name
          (if (s.slot name).collection.indexes.contains field then (s.slot name).collection
          else
            { (s.slot name).collection with
              indexes := (s.slot name).collection.indexes ++ [field] })) := by
  rw [← answer_createIndex]
  rfl

theorem handle_countDocuments :
    handle (.countDocuments name) s =
      match (s.slot name).refusal? "count_documents" name with
      | some e => (.error e, s)
      | none => (.ok (s.documents name).length, s) :=
  rfl

theorem handle_listIndexFields :
    handle (.listIndexFields name) s =
      match (s.slot name).refusal? "list_indexes" name with
      | some e => (.error e, s)
      | none =>
        match (s.slot name).collection? with
        | none => (.error (missing (.listIndexFields name)), s)
        | some c => (.ok c.indexes, s) :=
  rfl

end Operations

/-- Enabling partitioning does not fail. -/
theorem handle_enablePartitioning (s : MemoryStore) (database : String) :
    ∃ outcome, handle (.enablePartitioning database) s =
      (.ok outcome, { s with partitioned := s.partitioned.insert database () }) := by
  cases hcontains : s.partitioned.contains database with
  | false =>
    refine ⟨.applied ("enabled sharding for database " ++ database), ?_⟩
    exact if_neg (Bool.eq_false_iff.1 hcontains)
  | true =>
    refine ⟨.alreadySatisfied ("sharding already enabled for database " ++ database), ?_⟩
    -- a database that is in the set stays where it is
    obtain ⟨u, hget⟩ := Option.isSome_iff_exists.1 hcontains
    have hinsert : s.partitioned.insert database () = s.partitioned := NameMap.insert_eq_self hget
    rw [hinsert]
    exact if_pos hcontains

/-- Making sure of a user does not fail, and touches nothing but the users. -/
theorem handle_ensureUser (s : MemoryStore) (credential : Credential) :
    ∃ outcome users,
      handle (.ensureUser credential) s = (.ok outcome, { s with users := users }) := by
  have hanswer : handle (.ensureUser credential) s = s.answer (.ensureUser credential) := rfl
  rw [hanswer, answer]
  cases s.users.get? credential.user with
  | some held => exact ⟨_, s.users, rfl⟩
  | none => exact ⟨_, _, rfl⟩

/-! ### Stores that differ in some collections only -/

/-- Two stores differ at most in the collections of these names. -/
structure Frame (names : List String) (s t : MemoryStore) : Prop where
  slot : ∀ name ∉ names, t.slot name = s.slot name
  partitioned : t.partitioned = s.partitioned
  users : t.users = s.users
  faults : t.faults = s.faults
  closed : t.closed = s.closed

theorem Frame.refl (names : List String) (s : MemoryStore) : Frame names s s :=
  ⟨fun _ _ => rfl, rfl, rfl, rfl, rfl⟩

theorem Frame.trans {names : List String} {s t u : MemoryStore} (h₁ : Frame names s t)
    (h₂ : Frame names t u) : Frame names s u :=
  ⟨fun name h => (h₂.slot name h).trans (h₁.slot name h), h₂.partitioned.trans h₁.partitioned,
    h₂.users.trans h₁.users, h₂.faults.trans h₁.faults, h₂.closed.trans h₁.closed⟩

theorem Frame.symm {names : List String} {s t : MemoryStore} (h : Frame names s t) :
    Frame names t s :=
  ⟨fun name hname => (h.slot name hname).symm, h.partitioned.symm, h.users.symm, h.faults.symm,
    h.closed.symm⟩

theorem Frame.mono {names names' : List String} {s t : MemoryStore} (h : Frame names s t)
    (hsub : ∀ name ∈ names, name ∈ names') : Frame names' s t :=
  { h with slot := fun name hname => h.slot name fun hmem => hname (hsub name hmem) }

theorem frame_setCollection (s : MemoryStore) (name : String) (c : Collection) :
    Frame [name] s (s.setCollection name c) := by
  refine ⟨fun key hkey => ?_, rfl, rfl, rfl, rfl⟩
  rw [slot_setCollection, if_neg fun h => hkey (List.mem_singleton.2 h.symm)]

/-- Stores that differ at most in some collections, and agree there as well, are equal. -/
theorem Frame.eq {names : List String} {s t : MemoryStore} (h : Frame names s t)
    (hslot : ∀ name ∈ names, t.slot name = s.slot name) : t = s := by
  have hall (name : String) : t.slot name = s.slot name := by
    by_cases hname : name ∈ names
    · exact hslot name hname
    · exact h.slot name hname
  have hcollections : t.collections = s.collections :=
    NameMap.ext fun name => congrArg Slot.collection? (hall name)
  obtain ⟨-, hpartitioned, husers, hfaults, hclosed⟩ := h
  cases s
  cases t
  simp_all

end MemoryStore

end Store

end BulkProvision
