import BulkProvision.Proofs.History
import Mathlib.Data.List.Nodup

/-!
# What a store in memory keeps

Creating a collection, enabling partitioning, partitioning a collection and making sure of a user
each have a goal (`MemoryStore.Met`).  A step that is answered says truthfully whether it had
anything to do, and its goal stays met whatever happens to the store afterwards
(`truthful_of_replay`): the same step finds it met again.

What carries this is `MemoryStore.Effect`, all that one action can do to a store.  Nothing in it
removes a collection, an index, a database or a user (`Effect.keeps`), so no history does
(`keeps_replay`), and no program (`keeps_run`).
-/

namespace BulkProvision

namespace Store

/-- How a call ended that has an outcome; the other calls and failures have none. -/
def Call.outcome? : (call : Call) → call.Answer → Option Outcome
  | createCollection .., answer => answer.toOption
  | enablePartitioning _, answer => answer.toOption
  | partitionCollection .., answer => answer.toOption
  | ensureUser _, answer => answer.toOption
  | _, _ => none

/-- What becomes of a collection over time: its shard key stays, indexes are only added, and none
twice. -/
structure Collection.Grows (c d : Collection) : Prop where
  shardKey : ∀ key, c.shardKey = some key → d.shardKey = some key
  indexes : c.indexes <+: d.indexes
  nodup : c.indexes.Nodup → d.indexes.Nodup

theorem Collection.Grows.refl (c : Collection) : c.Grows c :=
  ⟨fun _ h => h, List.prefix_rfl, fun h => h⟩

theorem Collection.Grows.trans {c d e : Collection} (h₁ : c.Grows d) (h₂ : d.Grows e) :
    c.Grows e :=
  ⟨fun key h => h₂.shardKey key (h₁.shardKey key h), h₁.indexes.trans h₂.indexes,
    fun h => h₂.nodup (h₁.nodup h)⟩

/-- A collection with the same shard key and indexes. -/
theorem Collection.Grows.of_eq {c d : Collection} (hkey : d.shardKey = c.shardKey)
    (hindexes : d.indexes = c.indexes) : c.Grows d :=
  ⟨fun _ h => hkey.trans h, hindexes ▸ List.prefix_rfl, fun h => hindexes ▸ h⟩

namespace MemoryStore

/-! ### One action -/

/-- What an action can do to a store: nothing, or one of these. -/
inductive Effect (s : MemoryStore) : MemoryStore → Prop where
  | none : Effect s s
  | collection {name : String} {c : Collection} (h : (s.slot name).collection.Grows c) :
      Effect s (s.setCollection name c)
  | database (database : String) :
      Effect s { s with partitioned := s.partitioned.insert database () }
  /-- Only a user that is not there is added. -/
  | user {credential : Credential} (h : s.users.get? credential.user = .none) :
      Effect s { s with users := s.users.insert credential.user credential }
  | fault (operation collection : String) (fault : Fault) :
      Effect s (s.inject operation collection fault)
  | closed : Effect s { s with closed := s.closed + 1 }

section Effects

variable {s t : MemoryStore}

theorem grows_addIndex (c : Collection) (field : String) :
    c.Grows (if c.indexes.contains field then c
      else { c with indexes := c.indexes ++ [field] }) := by
  split
  · exact .refl c
  · next hnew =>
    have hfield : field ∉ c.indexes := by simpa using hnew
    refine ⟨fun _ h => h, List.prefix_append .., fun hnodup => ?_⟩
    rw [← List.concat_eq_append]
    exact hnodup.concat hfield

/-- **One call** has one of the effects. -/
theorem effect_handle (call : Call) (s : MemoryStore) : Effect s (handle call s).2 := by
  cases call with
  | createCollection name schema level =>
    rw [handle_createCollection]
    split
    · exact .none
    · split
      · exact .none
      · next hc =>
        refine .collection (.of_eq ?_ ?_) <;> rw [Slot.collection, hc] <;> rfl
  | alterValidator name schema level =>
    rw [handle_alterValidator]
    split
    · exact .none
    · split
      · exact .none
      · next c hc =>
        refine .collection (.of_eq ?_ ?_) <;> rw [Slot.collection, hc] <;> rfl
  | enablePartitioning database =>
    obtain ⟨outcome, hhandle⟩ := s.handle_enablePartitioning database
    rw [hhandle]
    exact .database database
  | partitionCollection name field strategy =>
    rw [handle_partitionCollection]
    split
    · exact .none
    · split
      · next hkey =>
        -- only a collection without a key is given one
        exact .collection
          ⟨fun key h => absurd (h.symm.trans hkey) (Option.some_ne_none key), List.prefix_rfl,
            fun h => h⟩
      · split <;> exact .none
  | deleteAll name =>
    rw [handle_deleteAll]
    split
    · exact .none
    · split
      · exact .none
      · next c hc =>
        refine .collection (.of_eq ?_ ?_) <;> rw [Slot.collection, hc] <;> rfl
  | insertMany name records =>
    rw [handle_insertMany]
    split
    · exact .none
    · split
      · exact .none
      · exact .collection (.of_eq rfl rfl)
  | createIndex name field =>
    rw [handle_createIndex]
    split
    · exact .none
    · exact .collection (grows_addIndex _ field)
  | ensureUser credential =>
    have hanswer : handle (.ensureUser credential) s = s.answer (.ensureUser credential) := rfl
    rw [hanswer, answer]
    split
    · exact .none
    · next hnew => exact .user hnew
  | countDocuments name =>
    rw [handle_countDocuments]
    split <;> exact .none
  | listIndexFields name =>
    rw [handle_listIndexFields]
    split
    · exact .none
    · split <;> exact .none
  | close => exact .closed

/-- **One action** has one of the effects. -/
theorem effect_act (action : Action) (s : MemoryStore) : Effect s (s.act action).2 := by
  cases action with
  | call call => exact effect_handle call s
  | inject operation collection fault => exact .fault operation collection fault

end Effects

/-! ### What is kept -/

/-- What a later store has of an earlier one. -/
structure Keeps (s t : MemoryStore) : Prop where
  collection : ∀ name c, s.collections.get? name = some c →
    ∃ d, t.collections.get? name = some d ∧ c.Grows d
  isPartitioned : ∀ database, s.isPartitioned database → t.isPartitioned database
  user : ∀ user credential, s.users.get? user = some credential →
    t.users.get? user = some credential

section Keeps

variable {s t u : MemoryStore}

theorem Keeps.refl (s : MemoryStore) : Keeps s s :=
  ⟨fun _ c h => ⟨c, h, .refl c⟩, fun _ h => h, fun _ _ h => h⟩

theorem Keeps.trans (h₁ : Keeps s t) (h₂ : Keeps t u) : Keeps s u where
  collection name c h := by
    obtain ⟨d, hd, hcd⟩ := h₁.collection name c h
    obtain ⟨e, he, hde⟩ := h₂.collection name d hd
    exact ⟨e, he, hcd.trans hde⟩
  isPartitioned database h := h₂.isPartitioned database (h₁.isPartitioned database h)
  user user credential h := h₂.user user credential (h₁.user user credential h)

/-- What leaves collections, databases and users alone keeps them. -/
theorem Keeps.of_eq (hcollections : t.collections = s.collections)
    (hpartitioned : t.partitioned = s.partitioned) (husers : t.users = s.users) : Keeps s t where
  collection name c h := ⟨c, by rw [hcollections, h], .refl c⟩
  isPartitioned database h := by rwa [MemoryStore.isPartitioned, hpartitioned]
  user user credential h := by rw [husers, h]

/-- A shard key is kept with its collection. -/
theorem Keeps.shardKey? (h : Keeps s t) {name : String} {key : String × KeyStrategy}
    (hkey : s.shardKey? name = some key) : t.shardKey? name = some key := by
  obtain ⟨c, hc, hheld⟩ := Option.bind_eq_some_iff.1 hkey
  obtain ⟨d, hd, hgrows⟩ := h.collection name c hc
  rw [MemoryStore.shardKey?, hd]
  exact hgrows.shardKey key hheld

/-- Nothing that an action does loses anything. -/
theorem Effect.keeps (h : Effect s t) : Keeps s t := by
  cases h with
  | none => exact .refl s
  | @collection name c hgrows =>
    refine { Keeps.refl s with collection := fun key d hd => ?_ }
    rw [setCollection, NameMap.get?_insert]
    split
    · next heq =>
      subst heq
      have hheld : (s.slot name).collection = d := by rw [Slot.collection, slot, hd]; rfl
      exact ⟨c, rfl, hheld ▸ hgrows⟩
    · exact ⟨d, hd, .refl d⟩
  | database database =>
    refine { Keeps.refl s with isPartitioned := fun key hkey => ?_ }
    rw [isPartitioned, NameMap.contains, NameMap.get?_insert]
    split
    · rfl
    · exact hkey
  | @user credential hnew =>
    refine { Keeps.refl s with user := fun user held hheld => ?_ }
    rw [NameMap.get?_insert, if_neg]
    · exact hheld
    · rintro rfl
      exact absurd (hheld.symm.trans hnew) (Option.some_ne_none held)
  | fault operation collection fault => exact .of_eq rfl rfl rfl
  | closed => exact .of_eq rfl rfl rfl

theorem keeps_handle (call : Call) (s : MemoryStore) : Keeps s (handle call s).2 :=
  (effect_handle call s).keeps

/-- **No history** loses anything. -/
theorem keeps_replay (s : MemoryStore) (actions : List Action) :
    Keeps s (s.replay actions).2 := by
  induction actions generalizing s with
  | nil => exact .refl s
  | cons action rest ih => exact (effect_act action s).keeps.trans (ih _)

/-- No program loses anything. -/
theorem keeps_run {ε α : Type} (p : StoreProgram ε α) (s : MemoryStore) :
    Keeps s (p.run handle s).state := by
  induction p generalizing s with
  | done value => exact .refl s
  | call op next ih => exact (keeps_handle op s).trans (ih _ _)
  | emit event next ih => exact ih s

/-- No session loses anything. -/
theorem keeps_session {ε α : Type} (settings : StoreSettings)
    (p : StoreProgram ε (Except Error α)) (s : MemoryStore) :
    Keeps s ((backend true).session settings p s).state :=
  keeps_run (closing p) s

end Keeps

/-- Indexes that are listed once stay listed once. -/
theorem Effect.nodup_indexes {s t : MemoryStore} (h : Effect s t)
    (hs : ∀ name, (s.collection name).indexes.Nodup) (name : String) :
    (t.collection name).indexes.Nodup := by
  cases h with
  | @collection n c hgrows =>
    rw [MemoryStore.collection, setCollection, NameMap.get?_insert]
    split
    · exact hgrows.nodup (hs n)
    · exact hs name
  | none => exact hs name
  | database database => exact hs name
  | user hnew => exact hs name
  | fault operation collection fault => exact hs name
  | closed => exact hs name

theorem nodup_indexes_replay (actions : List Action) (name : String) :
    ((empty.replay actions).2.collection name).indexes.Nodup := by
  induction actions using List.reverseRecOn generalizing name with
  | nil => exact List.nodup_nil
  | append_singleton before action ih =>
    rw [replay_concat]
    exact (effect_act action _).nodup_indexes ih name

/-! ### Goals -/

/-- Whether the goal of a call is met.  Only the calls that have outcomes have goals. -/
def Met (s : MemoryStore) : Call → Prop
  | .createCollection name .. => (s.collections.get? name).isSome
  | .enablePartitioning database => s.isPartitioned database
  | .partitionCollection name field strategy => s.shardKey? name = some (field, strategy)
  | .ensureUser credential => s.hasUser credential.user
  | _ => False

section Goals

variable {s t : MemoryStore} {call : Call} {outcome : Outcome}

/-- A goal stays met in a store that keeps what was there. -/
theorem Met.of_keeps (h : Met s call) (hkeeps : Keeps s t) : Met t call := by
  cases call with
  | createCollection name schema level =>
    obtain ⟨c, hc⟩ := Option.isSome_iff_exists.1 h
    obtain ⟨d, hd, -⟩ := hkeeps.collection name c hc
    exact Option.isSome_iff_exists.2 ⟨d, hd⟩
  | enablePartitioning database => exact hkeeps.isPartitioned database h
  | partitionCollection name field strategy => exact hkeeps.shardKey? h
  | ensureUser credential =>
    obtain ⟨held, hheld⟩ := Option.isSome_iff_exists.1 h
    exact Option.isSome_iff_exists.2 ⟨held, hkeeps.user credential.user held hheld⟩
  | _ => exact h

/-- **A goal that is met**: the call says so and changes nothing. -/
theorem handle_of_met (hmet : Met s call) (hfault : s.refusal? call = none) :
    ∃ note, call.outcome? (handle call s).1 = some (.alreadySatisfied note) ∧
      (handle call s).2 = s := by
  rw [handle, hfault]
  cases call with
  | createCollection name schema level =>
    obtain ⟨c, hc⟩ := Option.isSome_iff_exists.1 hmet
    rw [answer, hc]
    exact ⟨_, rfl, rfl⟩
  | enablePartitioning database =>
    have hheld : s.partitioned.contains database = true := hmet
    rw [answer, if_pos hheld]
    exact ⟨_, rfl, rfl⟩
  | partitionCollection name field strategy =>
    have hkey : (s.slot name).collection.shardKey = some (field, strategy) :=
      (s.shardKey?_eq name).symm.trans hmet
    simp only [answer_partitionCollection, hkey]
    exact ⟨_, rfl, rfl⟩
  | ensureUser credential =>
    obtain ⟨held, hheld⟩ := Option.isSome_iff_exists.1 hmet
    rw [answer, hheld]
    exact ⟨_, rfl, rfl⟩
  | _ => exact hmet.elim

/-- **A goal that is not met**: a call that is answered says that it was applied, and meets it. -/
theorem handle_of_not_met (hmet : ¬ Met s call)
    (houtcome : call.outcome? (handle call s).1 = some outcome) :
    outcome.isNoop = false ∧ Met (handle call s).2 call := by
  cases call with
  | createCollection name schema level =>
    rw [handle_createCollection] at houtcome ⊢
    split at houtcome
    · cases houtcome
    · split at houtcome
      · next c hc => exact absurd (Option.isSome_iff_exists.2 ⟨c, hc⟩) hmet
      · cases houtcome
        refine ⟨rfl, ?_⟩
        rw [Met, setCollection, NameMap.get?_insert_self]
        rfl
  | enablePartitioning database =>
    have hnew : ¬ s.partitioned.contains database = true := hmet
    have hhandle : handle (.enablePartitioning database) s =
        (.ok (.applied ("enabled sharding for database " ++ database)),
          { s with partitioned := s.partitioned.insert database () }) := if_neg hnew
    rw [hhandle] at houtcome ⊢
    cases houtcome
    refine ⟨rfl, ?_⟩
    rw [Met, isPartitioned, NameMap.contains, NameMap.get?_insert_self]
    rfl
  | partitionCollection name field strategy =>
    rw [handle_partitionCollection] at houtcome ⊢
    split at houtcome
    · cases houtcome
    · split at houtcome
      · cases houtcome
        exact ⟨rfl, shardKey?_setCollection_self s name _⟩
      · next present how hkey =>
        split at houtcome
        · next hsame =>
          obtain ⟨rfl, rfl⟩ := hsame
          exact absurd ((s.shardKey?_eq name).trans hkey) hmet
        · cases houtcome
  | ensureUser credential =>
    have hnew : s.users.get? credential.user = none :=
      Option.not_isSome_iff_eq_none.1 hmet
    have hhandle : handle (.ensureUser credential) s =
        (.ok (.applied ("admin user " ++ credential.user ++ " created")),
          { s with users := s.users.insert credential.user credential }) := by
      change s.answer (.ensureUser credential) = _
      rw [answer, hnew]
    rw [hhandle] at houtcome ⊢
    cases houtcome
    refine ⟨rfl, ?_⟩
    rw [Met, hasUser, NameMap.contains, NameMap.get?_insert_self]
    rfl
  | _ => cases houtcome

/-- A call that is answered was not refused. -/
theorem refusal?_of_outcome? (h : call.outcome? (handle call s).1 = some outcome) :
    s.refusal? call = none := by
  cases hrefusal : s.refusal? call with
  | none => rfl
  | some e =>
    rw [handle, hrefusal] at h
    cases call <;> cases h

end Goals

/-! ### Outcomes -/

/-- What the outcome of a call says of the store, then and later. -/
structure Truthful (s : MemoryStore) (call : Call) (outcome : Outcome) : Prop where
  /-- There was nothing to do exactly where nothing was done. -/
  isNoop_iff : outcome.isNoop = true ↔ (handle call s).2 = s
  /-- Whatever happens to the store next, there is nothing left to do for the same call. -/
  lasting : ∀ after t, ((handle call s).2.replay after).2 = t → t.refusal? call = none →
    ∃ note, call.outcome? (handle call t).1 = some (.alreadySatisfied note) ∧
      (handle call t).2 = t

section Truthful

variable {s : MemoryStore} {call : Call} {outcome : Outcome}

/-- An outcome says that there was nothing to do exactly where the goal was met before. -/
theorem isNoop_iff_met (h : call.outcome? (handle call s).1 = some outcome) :
    outcome.isNoop = true ↔ Met s call := by
  by_cases hmet : Met s call
  · obtain ⟨note, hnote, -⟩ := handle_of_met hmet (refusal?_of_outcome? h)
    obtain rfl := Option.some.inj (hnote.symm.trans h)
    exact iff_of_true rfl hmet
  · exact iff_of_false (Bool.eq_false_iff.1 (handle_of_not_met hmet h).1) hmet

/-- The goal of a call that was answered is met. -/
theorem met_of_outcome? (h : call.outcome? (handle call s).1 = some outcome) :
    Met (handle call s).2 call := by
  by_cases hmet : Met s call
  · exact hmet.of_keeps (keeps_handle call s)
  · exact (handle_of_not_met hmet h).2

theorem truthful_of_outcome? (h : call.outcome? (handle call s).1 = some outcome) :
    Truthful s call outcome := by
  refine ⟨?_, fun after t ht hfault => ?_⟩
  · rw [isNoop_iff_met h]
    constructor
    · intro hmet
      obtain ⟨note, -, hstate⟩ := handle_of_met hmet (refusal?_of_outcome? h)
      exact hstate
    · intro hstate
      -- the goal is met after the call, so it was met before
      exact hstate ▸ met_of_outcome? h
  · subst ht
    exact handle_of_met ((met_of_outcome? h).of_keeps (keeps_replay _ after)) hfault

end Truthful

/-- **Outcomes tell the truth, and goals once met stay met.**  In every store that a history leads
to, an answered call says that there was nothing to do exactly where it changed nothing, and
whatever follows, the same call finds nothing to do.  No history loses a collection, a shard key, an
index, a database or the credential of a user, and no field is listed twice among the indexes of a
collection. -/
theorem truthful_of_replay (before : List Action) (s : MemoryStore)
    (hs : (empty.replay before).2 = s) :
    (∀ call outcome, call.outcome? (handle call s).1 = some outcome → Truthful s call outcome) ∧
      (∀ after, Keeps s (s.replay after).2) ∧
      ∀ name, (s.collection name).indexes.Nodup := by
  subst hs
  exact ⟨fun _ _ => truthful_of_outcome?, keeps_replay _, nodup_indexes_replay before⟩

/-- A collection that its index and its shard key made, and a user. -/
def settling : List Action :=
  [.call (.createIndex "stations" "date"),
    .call (.partitionCollection "stations" "station_id" .hashed),
    .inject "create_index" "stations" .rejected,
    .call (.ensureUser ⟨"admin", "first", "root", "admin"⟩)]

/-- Partitioning again, and the same user with another password: there is nothing to do.  Enabling
partitioning is something to do, and is lasting as well. -/
theorem truthful_of_replay_settling :
    let s := (empty.replay settling).2
    Truthful s (.partitionCollection "stations" "station_id" .hashed)
        (.alreadySatisfied "collection stations already sharded by station_id") ∧
      Truthful s (.ensureUser ⟨"admin", "second", "root", "admin"⟩)
        (.alreadySatisfied "admin user admin already exists") ∧
      Truthful s (.enablePartitioning "weather")
        (.applied "enabled sharding for database weather") := by
  obtain ⟨htruthful, -, -⟩ := truthful_of_replay settling _ rfl
  exact ⟨htruthful _ _ (by decide +kernel), htruthful _ _ (by decide +kernel),
    htruthful _ _ (by decide +kernel)⟩

end MemoryStore

end Store

end BulkProvision
