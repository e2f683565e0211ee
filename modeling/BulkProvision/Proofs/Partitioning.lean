import BulkProvision.Proofs.Requests
import BulkProvision.Proofs.Slot

/-!
# Partitioning by another key

A collection is partitioned once, and by one key.  Asked to partition it by another, the store in
memory refuses and leaves it as it is.  A cluster refuses as well (`Shards.conflict`), but by the
code that is read as a goal met before: over a cluster the call comes back well, and the collection
is left with the other key.  Where the collection is not partitioned by another key, the two stores
answer alike, and the collection ends with the key that was asked for
(`partitionCollection_of_shards`).
-/

namespace BulkProvision

namespace Store

namespace MemoryStore

variable {m : MemoryStore} {name field : String} {strategy : KeyStrategy}

theorem handle_partitionCollection_of_none (hfault : m.fault? "partition_collection" name = none)
    (hkey : m.shardKey? name = none) :
    handle (.partitionCollection name field strategy) m =
      (.ok (.applied ("sharded collection " ++ name ++ " by " ++ field)),
        m.setCollection name { m.collection name with shardKey := some (field, strategy) }) := by
  have hrefusal : (m.slot name).refusal? "partition_collection" name = none :=
    congrArg (Option.map _) hfault
  have hnone : (m.slot name).collection.shardKey = none := (shardKey?_eq m name).symm.trans hkey
  rw [handle_partitionCollection, hrefusal, hnone]
  rfl

theorem handle_partitionCollection_of_some {present : String} {how : KeyStrategy}
    (hfault : m.fault? "partition_collection" name = none)
    (hkey : m.shardKey? name = some (present, how)) :
    handle (.partitionCollection name field strategy) m =
      if present = field ∧ how = strategy then
        (.ok (.alreadySatisfied ("collection " ++ name ++ " already sharded by " ++ field)), m)
      else
        (.error (.rejected "partition_collection" name
          ("already sharded with a different key (" ++ present ++ ")")), m) := by
  have hrefusal : (m.slot name).refusal? "partition_collection" name = none :=
    congrArg (Option.map _) hfault
  have hsome : (m.slot name).collection.shardKey = some (present, how) :=
    (shardKey?_eq m name).symm.trans hkey
  rw [handle_partitionCollection, hrefusal, hsome]

end MemoryStore

end Store

namespace Remote

open Store

/-- The request to partition a collection. -/
def partitionRequest (ns : Namespace) (field : String) (strategy : KeyStrategy) : Request :=
  .command adminDatabase (partitionCommand ns field strategy)

/-- How a cluster partitions collections, given the keys by which they are partitioned: it says so
when it has partitioned one, says nothing when it finds one partitioned by the same key, and
refuses to partition one by another key. -/
structure Shards {σ : Type} (cluster : Cluster σ)
    (keyOf : σ → Namespace → Option (String × KeyStrategy)) : Prop where
  applied (s : σ) (ns : Namespace) (field : String) (strategy : KeyStrategy)
    (h : keyOf s ns = none) :
    ∃ (reply : Document) (t : σ), cluster (partitionRequest ns field strategy) s = (.ok reply, t) ∧
      reply.get? "collectionsharded" = some (.text ns.text) ∧ keyOf t ns = some (field, strategy)
  repeated (s : σ) (ns : Namespace) (field : String) (strategy : KeyStrategy)
    (h : keyOf s ns = some (field, strategy)) :
    ∃ reply : Document, cluster (partitionRequest ns field strategy) s = (.ok reply, s) ∧
      reply.get? "collectionsharded" = none
  conflict (s : σ) (ns : Namespace) (field : String) (strategy : KeyStrategy)
    (key : String × KeyStrategy) (h : keyOf s ns = some key) (hne : key ≠ (field, strategy)) :
    ∃ message, cluster (partitionRequest ns field strategy) s =
      (.error (.command 23 "AlreadyInitialized" message), s)

/-- The refusal to partition by another key is read as a goal met before. -/
theorem readPartitioned_conflict (name field codeName message : String) :
    readPartitioned name field (.error (.command 23 codeName message)) =
      .ok (.alreadySatisfied ("partition_collection" ++ " on " ++ name ++ ": " ++
        (Failure.command 23 codeName message).text)) := by
  have hmet : ReadAsMet "partition_collection" (.command 23 codeName message) :=
    ⟨23, rfl, .inl rfl⟩
  exact classify_of_readAsMet name rfl hmet

theorem readPartitioned_ok_of_some {reply : Document} {ns : String} (name field : String)
    (h : reply.get? "collectionsharded" = some (.text ns)) :
    readPartitioned name field (.ok reply) =
      .ok (.applied ("sharded collection " ++ name ++ " by " ++ field)) := by
  have hnow : partitionedNow reply = true := by rw [partitionedNow, h]
  rw [readPartitioned, if_pos hnow]

theorem readPartitioned_ok_of_none {reply : Document} (name field : String)
    (h : reply.get? "collectionsharded" = none) :
    readPartitioned name field (.ok reply) =
      .ok (.alreadySatisfied ("collection " ++ name ++ " already sharded by " ++ field)) := by
  have hnow : ¬ partitionedNow reply = true := by
    rw [partitionedNow, h]
    exact Bool.false_ne_true
  rw [readPartitioned, if_neg hnow]

/-- **Partitioning over a cluster and in memory.**  In memory a collection that the call leaves well
is partitioned by the key asked for, and one that is partitioned by another key is refused and left
alone.  Over a cluster the same holds, with the same answer, as long as the collection is not
partitioned by another key; if it is, the call comes back as if there had been nothing to do, and
the collection keeps the other key. -/
theorem partitionCollection_of_shards {σ : Type} {cluster : Cluster σ}
    {keyOf : σ → Namespace → Option (String × KeyStrategy)} (hcluster : Shards cluster keyOf)
    (files : FileTree) {database name : String} (field : String) (strategy : KeyStrategy) {s : σ}
    {m : MemoryStore} (hfault : m.fault? "partition_collection" name = none)
    (hkey : m.shardKey? name = keyOf s ⟨database, name⟩) :
    let call := Call.partitionCollection name field strategy
    let onCluster := (backend cluster files database).handle call s
    let inMemory := MemoryStore.handle call m
    (∀ outcome, inMemory.1 = .ok outcome → inMemory.2.shardKey? name = some (field, strategy)) ∧
      (∀ key, m.shardKey? name = some key → key ≠ (field, strategy) →
        ∃ reason, inMemory = (.error (.rejected "partition_collection" name reason), m)) ∧
      ((∀ key, keyOf s ⟨database, name⟩ = some key → key = (field, strategy)) →
        onCluster.1 = inMemory.1 ∧ (∃ outcome, onCluster.1 = .ok outcome) ∧
          keyOf onCluster.2 ⟨database, name⟩ = some (field, strategy)) ∧
      ∀ key, keyOf s ⟨database, name⟩ = some key → key ≠ (field, strategy) →
        ∃ note, onCluster = (.ok (.alreadySatisfied note), s) := by
  intro call onCluster inMemory
  have honCluster : onCluster =
      (readPartitioned name field (cluster (partitionRequest ⟨database, name⟩ field strategy) s).1,
        (cluster (partitionRequest ⟨database, name⟩ field strategy) s).2) :=
    handle_of_carried (carried_partitionCollection name field strategy) s
  cases hpresent : keyOf s ⟨database, name⟩ with
  | none =>
    have hinMemory : inMemory = _ :=
      MemoryStore.handle_partitionCollection_of_none hfault (hkey.trans hpresent)
    obtain ⟨reply, t, hreply, hsharded, hafter⟩ := hcluster.applied s _ field strategy hpresent
    rw [hreply, readPartitioned_ok_of_some name field hsharded] at honCluster
    rw [honCluster, hinMemory, hkey, hpresent]
    refine ⟨fun _ _ => ?_, nofun, fun _ => ⟨rfl, ⟨_, rfl⟩, hafter⟩, nofun⟩
    exact MemoryStore.shardKey?_setCollection_self m name _
  | some key =>
    obtain ⟨present, how⟩ := key
    have hinMemory : inMemory = _ :=
      MemoryStore.handle_partitionCollection_of_some hfault (hkey.trans hpresent)
    by_cases hsame : present = field ∧ how = strategy
    · obtain ⟨rfl, rfl⟩ := hsame
      obtain ⟨reply, hreply, hsilent⟩ := hcluster.repeated s _ present how hpresent
      rw [hreply, readPartitioned_ok_of_none name present hsilent] at honCluster
      rw [if_pos ⟨rfl, rfl⟩] at hinMemory
      rw [honCluster, hinMemory, hkey, hpresent]
      refine ⟨fun _ _ => rfl, fun key heq hne => ?_, fun _ => ⟨rfl, ⟨_, rfl⟩, rfl⟩,
        fun key heq hne => ?_⟩
      · exact absurd (Option.some.inj heq).symm hne
      · exact absurd (Option.some.inj heq).symm hne
    · have hne : (present, how) ≠ (field, strategy) := fun heq => hsame (Prod.mk.inj heq)
      obtain ⟨message, hreply⟩ := hcluster.conflict s _ field strategy _ hpresent hne
      rw [hreply, readPartitioned_conflict] at honCluster
      rw [if_neg hsame] at hinMemory
      rw [honCluster, hinMemory, hkey, hpresent]
      refine ⟨nofun, fun _ _ _ => ⟨_, rfl⟩, fun hsafe => ?_, fun _ _ _ => ⟨_, rfl⟩⟩
      exact absurd (hsafe _ rfl) hne

/-- A cluster that keeps the keys of its collections, by their full names. -/
def keyedCluster : Cluster (NameMap (String × KeyStrategy)) := fun request keys =>
  match request with
  | .reach _ => (.ok (), keys)
  | .create .. => (.ok (), keys)
  | .command _ document => shard document keys
  | .deleteAll _ => (.ok 0, keys)
  | .insert .. => (.ok (), keys)
  | .createIndex .. => (.ok (), keys)
  | .count _ => (.ok 0, keys)
  | .listIndexes _ => (.ok [], keys)
  | .aggregate .. => (.ok [], keys)
  | .shutdown => ((), keys)
where
  /-- The strategy of a key, by what is written for its field. -/
  strategyOf : Document.Value → KeyStrategy
    | .text _ => .hashed
    | _ => .ranged
  /-- Partitions a collection, if that is what is asked for. -/
  shard (document : Document) (keys : NameMap (String × KeyStrategy)) :
      Except Failure Document × NameMap (String × KeyStrategy) :=
    match document.get? "shardCollection", document.get? "key" with
    | some (.text collection), some (.document [(field, value)]) =>
      match keys.get? collection with
      | none =>
        (.ok [("collectionsharded", collection), ("ok", 1)],
          keys.insert collection (field, strategyOf value))
      | some key =>
        if key = (field, strategyOf value) then (.ok [("ok", 1)], keys)
        else
          (.error (.command 23 "AlreadyInitialized"
            ("sharding already enabled for collection " ++ collection)), keys)
    | _, _ => (.ok [("ok", 1)], keys)

theorem shards_keyedCluster : Shards keyedCluster fun keys ns => keys.get? ns.text := by
  have hshard (keys : NameMap (String × KeyStrategy)) (ns : Namespace) (field : String)
      (strategy : KeyStrategy) : keyedCluster (partitionRequest ns field strategy) keys =
        match keys.get? ns.text with
        | none =>
          (.ok [("collectionsharded", ns.text), ("ok", 1)],
            keys.insert ns.text (field, strategy))
        | some key =>
          if key = (field, strategy) then (.ok [("ok", 1)], keys)
          else
            (.error (.command 23 "AlreadyInitialized"
              ("sharding already enabled for collection " ++ ns.text)), keys) := by
    cases strategy <;> rfl
  constructor
  · intro keys ns field strategy h
    rw [hshard, h]
    exact ⟨_, _, rfl, rfl, NameMap.get?_insert_self ..⟩
  · intro keys ns field strategy h
    rw [hshard, h]
    exact ⟨[("ok", 1)], if_pos rfl, rfl⟩
  · intro keys ns field strategy key h hne
    rw [hshard, h]
    exact ⟨_, if_neg hne⟩

/-- A collection that is partitioned by another key, in memory and over a cluster. -/
theorem partitionCollection_of_shards_keyed :
    let keys := NameMap.empty.insert "weatherDB.events" ("date", KeyStrategy.ranged)
    let m := MemoryStore.empty.setCollection "events" ⟨none, some ("date", .ranged), [], []⟩
    let call := Call.partitionCollection "events" "station_id" .hashed
    (∃ reason, MemoryStore.handle call m =
        (.error (.rejected "partition_collection" "events" reason), m)) ∧
      (∃ note, (backend keyedCluster ⟨[]⟩ "weatherDB").handle call keys =
        (.ok (.alreadySatisfied note), keys)) ∧
      keys.get? "weatherDB.events" ≠ some ("station_id", .hashed) := by
  intro keys m call
  have hpresent : keys.get? "weatherDB.events" = some ("date", .ranged) := by decide +kernel
  have hkey : m.shardKey? "events" = some ("date", .ranged) := by decide +kernel
  obtain ⟨-, hrefused, -, hconflict⟩ :=
    @partitionCollection_of_shards _ _ _ shards_keyedCluster ⟨[]⟩ "weatherDB" "events" "station_id"
      .hashed keys m (by decide +kernel) (hkey.trans hpresent.symm)
  exact ⟨hrefused _ hkey (by decide), hconflict _ hpresent (by decide), by decide +kernel⟩

end Remote

end BulkProvision
