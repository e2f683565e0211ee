import BulkProvision.Proofs.Slot
import BulkProvision.Proofs.Source
import BulkProvision.Provision

/-!
# How far the work on a dataset gets

Over a store in memory the collection of a dataset passes `Milestone`s in a fixed order: it is
created or given the validator, partitioned, cleared, filled, and indexed.  At each milestone an
`obstacle` may keep it: an injected fault, another shard key, or a source that does not load.  The
`course` of the work is the first milestone with an obstacle, and that obstacle.

What the course is depends on nothing but the slot of the collection, and what it leaves there is a
function of both (`Goal.slotAt`).  Going over the same collection again meets the same obstacles,
except that replacing the validator of a collection that is there only now may be refused
(`Goal.course_after`); either way the second time leaves the collection as it was
(`Goal.slotAt_after`).
-/

namespace BulkProvision

namespace Provision

open Store

/-- What the work on a dataset aims at: the dataset, its schema, and what loading its source came
to. -/
structure Goal where
  dataset : Dataset
  schema : Schema
  source : Except Error Source.Loaded
  conforming : ∀ loaded, source = .ok loaded →
    ∀ record ∈ loaded.records, schema.check record = .ok ()

/-- What the collection of a dataset went through. -/
inductive Milestone where
  | untouched
  /-- The collection is there and held to the schema. -/
  | validated
  | partitioned
  /-- The documents of the collection are deleted. -/
  | cleared
  /-- The collection holds the loaded records. -/
  | filled
  | indexed
  deriving DecidableEq

/-- The milestones before a milestone. -/
def Milestone.passed : Milestone → List Milestone
  | untouched => []
  | validated => [untouched]
  | partitioned => [untouched, validated]
  | cleared => [untouched, validated, partitioned]
  | filled => [untouched, validated, partitioned, cleared]
  | indexed => [untouched, validated, partitioned, cleared, filled]

/-- The indexes after more fields were indexed; a field that has an index keeps it. -/
def addIndexes (present fields : List String) : List String :=
  fields.foldl (fun present field =>
    if present.contains field then present else present ++ [field]) present

/-- What is added: each field that had no index, once, in order of first occurrence. -/
theorem addIndexes_eq (present fields : List String) :
    addIndexes present fields =
      present ++ (fields.filter fun field => !present.contains field).eraseDups := by
  -- each field may add to the indexes that the next one finds
  induction fields generalizing present with
  | nil => simp [addIndexes]
  | cons field rest ih =>
    rw [addIndexes, List.foldl_cons, ← addIndexes, ih]
    cases hfield : present.contains field with
    | true => rw [if_pos rfl, List.filter_cons_of_neg (by rw [hfield]; decide)]
    | false =>
      have hrest : (rest.filter fun f => !(present ++ [field]).contains f) =
          (rest.filter fun f => !present.contains f).filter fun f => !f == field := by
        rw [List.filter_filter]
        refine List.filter_congr fun f _ => ?_
        rw [List.contains_append, List.contains_cons, List.contains_nil, Bool.or_false,
          Bool.not_or, Bool.and_comm]
      rw [if_neg Bool.false_ne_true, List.filter_cons_of_pos (by rw [hfield]; rfl),
        List.eraseDups_cons, hrest, List.append_assoc, List.singleton_append]

theorem addIndexes_addIndexes (present fields : List String) :
    addIndexes (addIndexes present fields) fields = addIndexes present fields := by
  have hnone : (fields.filter fun field => !(addIndexes present fields).contains field) = [] := by
    refine List.filter_eq_nil_iff.2 fun field hfield => ?_
    by_cases hpresent : field ∈ present
    · simp [addIndexes_eq, hpresent]
    · simp [addIndexes_eq, hpresent, hfield]
  rw [addIndexes_eq (addIndexes present fields), hnone, List.eraseDups_nil, List.append_nil]

namespace Goal

/-- The goal for a dataset with a schema. -/
def ofDataset (plan : Plan) (files : FileTree) (dataset : Dataset) (schema : Schema) : Goal :=
  ⟨dataset, schema, Source.loadDataset files plan.rules dataset schema,
    fun _ => Source.check_of_mem_loadDataset⟩

variable (g : Goal)

/-- The collection that is worked on. -/
def name : String := g.dataset.name

/-- The records to insert. -/
def records : List Record :=
  match g.source with
  | .ok loaded => loaded.records
  | .error _ => []

/-- The fields of those records that became NaN. -/
def unparseable : Nat :=
  match g.source with
  | .ok loaded => loaded.coercion.unparseable
  | .error _ => 0

/-- A collection brought to a milestone. -/
def collectionAt (c : Collection) : Milestone → Collection
  | .untouched => c
  | .validated => ⟨some (g.schema, level), c.shardKey, c.documents, c.indexes⟩
  | .partitioned =>
    ⟨some (g.schema, level), some (g.dataset.shardKey, .hashed), c.documents, c.indexes⟩
  | .cleared => ⟨some (g.schema, level), some (g.dataset.shardKey, .hashed), [], c.indexes⟩
  | .filled => ⟨some (g.schema, level), some (g.dataset.shardKey, .hashed), g.records, c.indexes⟩
  | .indexed =>
    ⟨some (g.schema, level), some (g.dataset.shardKey, .hashed), g.records,
      addIndexes c.indexes g.dataset.indexFields⟩

/-- A slot whose collection was brought to a milestone. -/
def slotAt (k : Slot) : Milestone → Slot
  | .untouched => k
  | m => k.setCollection (g.collectionAt k.collection m)

/-- The figures of the report at a milestone. -/
def figuresAt (k : Slot) : Milestone → DatasetReport
  | .untouched => .start g.name
  | .validated => .start g.name
  | .partitioned => { DatasetReport.start g.name with unparseable := g.unparseable }
  | .cleared =>
    { DatasetReport.start g.name with
      unparseable := g.unparseable, deleted := k.collection.documents.length }
  | .filled =>
    { DatasetReport.start g.name with
      unparseable := g.unparseable, deleted := k.collection.documents.length,
      inserted := g.records.length }
  | .indexed =>
    { DatasetReport.start g.name with
      unparseable := g.unparseable, deleted := k.collection.documents.length,
      inserted := g.records.length, indexes := g.dataset.indexFields }

@[simp] theorem collection_slotAt (k : Slot) (m : Milestone) :
    (g.slotAt k m).collection = g.collectionAt k.collection m := by
  cases m <;> rfl

@[simp] theorem refusal?_slotAt (k : Slot) (m : Milestone) :
    (g.slotAt k m).refusal? = k.refusal? := by
  cases m <;> rfl

/-! ### Obstacles -/

/-- The refusal to partition a collection that is partitioned by another key. -/
def keyConflict? (c : Collection) : Option Error :=
  match c.shardKey with
  | none => none
  | some (field, strategy) =>
    if field = g.dataset.shardKey ∧ strategy = .hashed then none
    else some (.rejected "partition_collection" g.name
      ("already sharded with a different key (" ++ field ++ ")"))

/-- What keeps a collection at a milestone. -/
def obstacle (k : Slot) : Milestone → Option Error
  | .untouched =>
    (k.refusal? "create_collection" g.name).or
      (k.collection?.bind fun _ => k.refusal? "alter_collection_validator" g.name)
  | .validated => (k.refusal? "partition_collection" g.name).or (g.keyConflict? k.collection)
  | .partitioned =>
    match g.source with
    | .error e => some e
    | .ok _ => k.refusal? "delete_all" g.name
  | .cleared => if g.records = [] then none else k.refusal? "insert_many" g.name
  | .filled => if g.dataset.indexFields = [] then none else k.refusal? "create_index" g.name
  | .indexed => none

/-- A collection is cleared only when the source is loaded. -/
theorem exists_loaded {k : Slot} (h : g.obstacle k .partitioned = none) :
    ∃ loaded, g.source = .ok loaded ∧ g.records = loaded.records ∧
      g.unparseable = loaded.coercion.unparseable := by
  rw [obstacle] at h
  split at h
  · cases h
  · next loaded hsource =>
    refine ⟨loaded, hsource, ?_, ?_⟩
    · rw [records, hsource]
    · rw [unparseable, hsource]

/-- The first of some milestones that an obstacle keeps the collection at, and how the work
ends. -/
def firstStop (k : Slot) : List Milestone → Milestone × Except Error Unit
  | [] => (.indexed, .ok ())
  | m :: rest =>
    match g.obstacle k m with
    | some e => (m, .error e)
    | none => firstStop k rest

/-- The milestone that is reached, and how the work ends. -/
def course (k : Slot) : Milestone × Except Error Unit := g.firstStop k Milestone.indexed.passed

/-- The course ends at the first obstacle, or at the last milestone when there is none. -/
theorem course_cases (k : Slot) :
    (∃ m e, g.course k = (m, .error e) ∧ g.obstacle k m = some e ∧
      ∀ m' ∈ m.passed, g.obstacle k m' = none) ∨
    (g.course k = (.indexed, .ok ()) ∧
      ∀ m' ∈ Milestone.indexed.passed, g.obstacle k m' = none) := by
  simp only [course, Milestone.passed, firstStop]
  split
  · next e hstop => exact .inl ⟨.untouched, e, rfl, hstop, by simp⟩
  · next huntouched =>
    split
    · next e hstop => exact .inl ⟨.validated, e, rfl, hstop, by simp [huntouched]⟩
    · next hvalidated =>
      split
      · next e hstop =>
        exact .inl ⟨.partitioned, e, rfl, hstop, by simp [huntouched, hvalidated]⟩
      · next hpartitioned =>
        split
        · next e hstop =>
          exact .inl ⟨.cleared, e, rfl, hstop, by simp [huntouched, hvalidated, hpartitioned]⟩
        · next hcleared =>
          split
          · next e hstop =>
            exact .inl ⟨.filled, e, rfl, hstop,
              by simp [huntouched, hvalidated, hpartitioned, hcleared]⟩
          · next hfilled =>
            exact .inr ⟨rfl, by simp [huntouched, hvalidated, hpartitioned, hcleared, hfilled]⟩

theorem passed_course (k : Slot) : ∀ m ∈ (g.course k).1.passed, g.obstacle k m = none := by
  rcases g.course_cases k with ⟨m, e, hcourse, -, hpassed⟩ | ⟨hcourse, hpassed⟩
  · rw [hcourse]
    exact hpassed
  · rw [hcourse]
    exact hpassed

theorem course_untouched {k : Slot} {e : Error} (h : g.obstacle k .untouched = some e) :
    g.course k = (.untouched, .error e) := by
  simp only [course, Milestone.passed, firstStop, h]

theorem course_of_ok {k : Slot} (h : (g.course k).2 = .ok ()) :
    g.course k = (.indexed, .ok ()) ∧
      ∀ m ∈ Milestone.indexed.passed, g.obstacle k m = none := by
  rcases g.course_cases k with ⟨m, e, hcourse, -, -⟩ | hindexed
  · rw [hcourse] at h
    cases h
  · exact hindexed

theorem firstStop_congr {k k' : Slot} {ms : List Milestone}
    (h : ∀ m ∈ ms, g.obstacle k' m = g.obstacle k m) : g.firstStop k' ms = g.firstStop k ms := by
  induction ms with
  | nil => rfl
  | cons m rest ih =>
    rw [firstStop, firstStop, h m List.mem_cons_self,
      ih fun m' hm' => h m' (List.mem_cons_of_mem _ hm')]

/-! ### Going over it again -/

theorem slotAt_slotAt (k : Slot) (m : Milestone) :
    g.slotAt (g.slotAt k m) m = g.slotAt k m := by
  cases m with
  | indexed => simp only [slotAt, collectionAt, Slot.collection_setCollection,
      addIndexes_addIndexes, Slot.setCollection_setCollection]
  | _ => rfl

/-- A collection brought to a milestone meets the obstacles it met before, but for the first. -/
theorem obstacle_slotAt {k : Slot} {m m' : Milestone} (hm' : m' ≠ .untouched)
    (hm : m = .validated ∨ g.obstacle k .validated = none) :
    g.obstacle (g.slotAt k m) m' = g.obstacle k m' := by
  cases m' with
  | untouched => exact absurd rfl hm'
  | validated =>
    -- the key is as it was, or it is the one asked for
    rw [obstacle, refusal?_slotAt, collection_slotAt, obstacle]
    rcases hm with rfl | hnone
    · rfl
    · rw [obstacle, Option.or_eq_none_iff] at hnone
      rw [hnone.1, hnone.2]
      cases m with
      | untouched => exact hnone.2
      | validated => exact hnone.2
      | _ => exact if_pos ⟨rfl, rfl⟩
  | _ => simp only [obstacle, refusal?_slotAt]

theorem obstacle_untouched_slotAt {k : Slot} {m : Milestone} (hm : m ≠ .untouched)
    (h : g.obstacle k .untouched = none) :
    g.obstacle (g.slotAt k m) .untouched = k.refusal? "alter_collection_validator" g.name := by
  rw [obstacle, Option.or_eq_none_iff] at h
  rw [obstacle, refusal?_slotAt, h.1]
  cases m with
  | untouched => exact absurd rfl hm
  | _ => rfl

/-- **Going over a collection again.**  The work takes the same course, unless the collection was
not there at first and replacing its validator is refused now that it is. -/
theorem course_after (k : Slot) :
    g.course (g.slotAt k (g.course k).1) = g.course k ∨
      (k.collection? = none ∧ (g.slotAt k (g.course k).1).collection?.isSome ∧
        ∃ e, k.refusal? "alter_collection_validator" g.name = some e ∧
          g.course (g.slotAt k (g.course k).1) = (.untouched, .error e)) := by
  have hpassed := g.passed_course k
  generalize (g.course k).1 = m at hpassed ⊢
  by_cases hm : m = .untouched
  · rw [hm]
    exact .inl rfl
  have huntouched : g.obstacle k .untouched = none := by
    refine hpassed _ ?_
    cases m <;> simp [Milestone.passed] at hm ⊢
  have hvalidated : m = .validated ∨ g.obstacle k .validated = none := by
    refine Decidable.or_iff_not_imp_left.2 fun hne => hpassed _ ?_
    cases m <;> simp [Milestone.passed] at hm hne ⊢
  -- the first obstacle is the only one that asks whether the collection is there
  have hagain := g.obstacle_untouched_slotAt hm huntouched
  cases halter : k.refusal? "alter_collection_validator" g.name with
  | some e =>
    refine .inr ⟨?_, ?_, e, rfl, g.course_untouched (hagain.trans halter)⟩
    · rw [obstacle, Option.or_eq_none_iff] at huntouched
      cases hc : k.collection? with
      | none => rfl
      | some c =>
        rw [hc, Option.bind_some, halter] at huntouched
        cases huntouched.2
    · cases m with
      | untouched => exact absurd rfl hm
      | _ => rfl
  | none =>
    refine .inl (g.firstStop_congr fun m' _ => ?_)
    by_cases hfirst : m' = .untouched
    · rw [hfirst, hagain, halter, huntouched]
    · exact g.obstacle_slotAt hfirst hvalidated

theorem slotAt_after (k : Slot) :
    g.slotAt (g.slotAt k (g.course k).1) (g.course (g.slotAt k (g.course k).1)).1 =
      g.slotAt k (g.course k).1 := by
  rcases g.course_after k with hsame | ⟨-, -, e, -, huntouched⟩
  · rw [hsame, slotAt_slotAt]
  · rw [huntouched]
    rfl

end Goal

end Provision

end BulkProvision
