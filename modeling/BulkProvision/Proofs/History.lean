import BulkProvision.Proofs.Atomicity
import Mathlib.Data.List.DropRight

/-!
# Histories of a store in memory

What happens to a store are calls and injections of faults (`Action`); a `replay` performs them one
after the other and keeps a log of the calls with their answers.

The documents of a collection can be read off the log alone: they are the batches that went in since
the last deletion (`contents`), whatever else happened in between, and the answers add up to their
number (`accounts_of_replay`).  One action changes the documents as its entry in the log says
(`booked_act`), and the rest is induction over the history.
-/

namespace BulkProvision

namespace Store

/-- What can happen to a store in memory. -/
inductive Action where
  | call (call : Call)
  /-- From now on the operation fails on the collection. -/
  | inject (operation collection : String) (fault : Fault)
  deriving DecidableEq

/-- What a log keeps of an action. -/
inductive LogEntry where
  | answered (call : Call) (answer : call.Answer)
  | injected (operation collection : String) (fault : Fault)

namespace LogEntry

/-- The batch that went into a collection. -/
def batch? (name : String) : LogEntry → Option (List Record)
  | answered (.insertMany n records) (.ok _) => if n = name then some records else none
  | _ => none

/-- Whether the documents of a collection were deleted. -/
def clears (name : String) : LogEntry → Bool
  | answered (.deleteAll n) (.ok _) => n = name
  | _ => false

/-- How many documents an insertion into a collection was answered to have put there. -/
def inserted (name : String) : LogEntry → Nat
  | answered (.insertMany n _) (.ok count) => if n = name then count else 0
  | _ => 0

/-- How many documents a deletion in a collection was answered to have removed. -/
def deleted (name : String) : LogEntry → Nat
  | answered (.deleteAll n) (.ok count) => if n = name then count else 0
  | _ => 0

/-- An entry does not both delete and insert. -/
theorem batch?_of_clears {name : String} {entry : LogEntry} (h : entry.clears name = true) :
    entry.batch? name = none := by
  unfold clears at h
  split at h
  · rfl
  · cases h

end LogEntry

/-- What was put into a collection since its documents were last deleted. -/
def contents (name : String) (log : List LogEntry) : List Record :=
  ((log.rtakeWhile fun entry => !entry.clears name).filterMap (LogEntry.batch? name)).flatten

/-- The sum of the answers to the insertions into a collection. -/
def insertedTotal (name : String) (log : List LogEntry) : Nat :=
  log.foldl (fun total entry => total + entry.inserted name) 0

/-- The sum of the answers to the deletions in a collection. -/
def deletedTotal (name : String) (log : List LogEntry) : Nat :=
  log.foldl (fun total entry => total + entry.deleted name) 0

theorem contents_concat (name : String) (log : List LogEntry) (entry : LogEntry) :
    contents name (log ++ [entry]) =
      if entry.clears name then [] else contents name log ++ (entry.batch? name).getD [] := by
  rw [contents, List.rtakeWhile_concat]
  cases hclears : entry.clears name with
  | true => rfl
  | false =>
    cases hbatch : entry.batch? name with
    | none => simp [contents, hbatch]
    | some records => simp [contents, hbatch]

theorem insertedTotal_concat (name : String) (log : List LogEntry) (entry : LogEntry) :
    insertedTotal name (log ++ [entry]) = insertedTotal name log + entry.inserted name :=
  List.foldl_concat ..

theorem deletedTotal_concat (name : String) (log : List LogEntry) (entry : LogEntry) :
    deletedTotal name (log ++ [entry]) = deletedTotal name log + entry.deleted name :=
  List.foldl_concat ..

namespace MemoryStore

/-- Performs an action: what the log keeps of it, and the store afterwards. -/
def act (s : MemoryStore) : Action → LogEntry × MemoryStore
  | .call call => (.answered call (handle call s).1, (handle call s).2)
  | .inject operation collection fault =>
    (.injected operation collection fault, s.inject operation collection fault)

/-- Performs actions in order: the log, and the store afterwards. -/
def replay (s : MemoryStore) : List Action → List LogEntry × MemoryStore
  | [] => ([], s)
  | action :: rest =>
    ((s.act action).1 :: ((s.act action).2.replay rest).1, ((s.act action).2.replay rest).2)

theorem replay_concat (s : MemoryStore) (actions : List Action) (action : Action) :
    s.replay (actions ++ [action]) =
      ((s.replay actions).1 ++ [((s.replay actions).2.act action).1],
        ((s.replay actions).2.act action).2) := by
  induction actions generalizing s with
  | nil => rfl
  | cons first rest ih => simp only [List.cons_append, replay, ih]

end MemoryStore

/-! ### What a call makes of a collection -/

/-- What a call that is carried out makes of the collection that it is about. -/
def Call.revise (call : Call) (c : Collection) : Collection :=
  match call with
  | .createCollection _ schema level => { c with validator := some (schema, level) }
  | .alterValidator _ schema level => { c with validator := some (schema, level) }
  | .partitionCollection _ field strategy => { c with shardKey := some (field, strategy) }
  | .deleteAll _ => { c with documents := [] }
  | .insertMany _ records => { c with documents := c.documents ++ records }
  | .createIndex _ field =>
    if c.indexes.contains field then c else { c with indexes := c.indexes ++ [field] }
  | _ => c

namespace MemoryStore

/-- **Whatever is called**, either every collection stays as it is, or one is revised as the call
says. -/
theorem handle_cases (s : MemoryStore) (call : Call) :
    (∀ key, (handle call s).2.slot key = s.slot key) ∨
      ∃ name, call.collection? = some name ∧
        (handle call s).2 = s.setCollection name (call.revise (s.slot name).collection) := by
  cases call with
  | createCollection n schema level =>
    rw [handle_createCollection]
    split
    · exact .inl fun _ => rfl
    · split
      · exact .inl fun _ => rfl
      · next hc =>
        refine .inr ⟨n, rfl, ?_⟩
        rw [Slot.collection, hc]
        rfl
  | alterValidator n schema level =>
    rw [handle_alterValidator]
    split
    · exact .inl fun _ => rfl
    · split
      · exact .inl fun _ => rfl
      · next c hc =>
        refine .inr ⟨n, rfl, ?_⟩
        rw [Slot.collection, hc]
        rfl
  | enablePartitioning database =>
    obtain ⟨outcome, hhandle⟩ := s.handle_enablePartitioning database
    exact .inl fun _ => by rw [hhandle]; rfl
  | partitionCollection n field strategy =>
    rw [handle_partitionCollection]
    split
    · exact .inl fun _ => rfl
    · split
      · exact .inr ⟨n, rfl, rfl⟩
      · exact .inl fun _ => by split <;> rfl
  | deleteAll n =>
    rw [handle_deleteAll]
    split
    · exact .inl fun _ => rfl
    · split
      · exact .inl fun _ => rfl
      · next c hc =>
        refine .inr ⟨n, rfl, ?_⟩
        rw [Slot.collection, hc]
        rfl
  | insertMany n records =>
    rw [handle_insertMany]
    split
    · exact .inl fun _ => rfl
    · split
      · exact .inl fun _ => rfl
      · exact .inr ⟨n, rfl, rfl⟩
  | createIndex n field =>
    rw [handle_createIndex]
    split
    · exact .inl fun _ => rfl
    · exact .inr ⟨n, rfl, rfl⟩
  | ensureUser credential =>
    obtain ⟨outcome, users, hhandle⟩ := s.handle_ensureUser credential
    exact .inl fun _ => by rw [hhandle]; rfl
  | countDocuments n =>
    rw [handle_countDocuments]
    exact .inl fun _ => by split <;> rfl
  | listIndexFields n =>
    rw [handle_listIndexFields]
    split
    · exact .inl fun _ => rfl
    · exact .inl fun _ => by split <;> rfl
  | close => exact .inl fun _ => rfl

/-! ### One action -/

section Documents

variable {s : MemoryStore} {name key : String} {c : Collection}

theorem documents_setCollection (s : MemoryStore) (name key : String) (c : Collection) :
    (s.setCollection name c).documents key =
      if name = key then c.documents else s.documents key := by
  rw [documents, collection, setCollection, NameMap.get?_insert]
  split <;> rfl

/-- A collection that is given its own documents. -/
theorem documents_setCollection_of_eq (h : c.documents = (s.slot name).collection.documents) :
    (s.setCollection name c).documents key = s.documents key := by
  rw [documents_setCollection]
  split
  · next heq => rw [h, heq]; rfl
  · rfl

/-- A batch is kept out, or it goes in whole after what is there; a strict collection takes none
with a record that does not conform. -/
theorem insertMany_cases (s : MemoryStore) (name : String) (records : List Record) :
    (∃ e, handle (.insertMany name records) s = (.error e, s)) ∨
      ∃ t, handle (.insertMany name records) s = (.ok records.length, t) ∧
        (∀ key, t.documents key =
          if name = key then s.documents name ++ records else s.documents key) ∧
        ∀ schema, s.validator? name = some (schema, .strict) →
          ∀ record ∈ records, schema.check record = .ok () := by
  rw [handle_insertMany]
  cases (s.slot name).refusal? "insert_many" name with
  | some e => exact .inl ⟨e, rfl⟩
  | none =>
    cases hfound : (s.slot name).collection.guard?.bind (firstViolation? · records) with
    | some found => exact .inl ⟨_, rfl⟩
    | none =>
      refine .inr ⟨_, rfl, fun key => documents_setCollection s name key _, ?_⟩
      intro schema hstrict
      have hguard : (s.slot name).collection.guard? = some schema :=
        guard?_eq_some_iff.2 ((s.validator?_eq name).symm.trans hstrict)
      rw [hguard, Option.bind_some] at hfound
      exact firstViolation?_eq_none_iff.1 hfound

/-- A deletion is refused, or it leaves nothing and answers how much there was. -/
theorem deleteAll_cases (s : MemoryStore) (name : String) :
    (∃ e, handle (.deleteAll name) s = (.error e, s)) ∨
      ∃ t, handle (.deleteAll name) s = (.ok (s.documents name).length, t) ∧
        ∀ key, t.documents key = if name = key then [] else s.documents key := by
  rw [handle_deleteAll]
  cases (s.slot name).refusal? "delete_all" name with
  | some e => exact .inl ⟨e, rfl⟩
  | none =>
    cases hc : (s.slot name).collection? with
    | none =>
      have hempty : s.documents name = [] := by
        rw [documents, show s.collection name = (s.slot name).collection from rfl,
          Slot.collection, hc]
        rfl
      refine .inr ⟨s, by rw [hempty]; rfl, fun key => ?_⟩
      split
      · next heq => rw [← heq, hempty]
      · rfl
    | some c =>
      have hheld : s.documents name = c.documents := by
        rw [documents, (views_of_slot hc).1]
      exact .inr ⟨_, by rw [hheld], fun key => documents_setCollection s name key _⟩

/-- No other call changes documents. -/
theorem documents_handle {call : Call} (hinsert : ∀ n records, call ≠ .insertMany n records)
    (hdelete : ∀ n, call ≠ .deleteAll n) : (handle call s).2.documents key = s.documents key := by
  rcases s.handle_cases call with hslots | ⟨name, -, hstate⟩
  · exact congrArg (fun k : Slot => k.collection.documents) (hslots key)
  · rw [hstate]
    refine documents_setCollection_of_eq ?_
    cases call with
    | deleteAll n => exact absurd rfl (hdelete n)
    | insertMany n records => exact absurd rfl (hinsert n records)
    | createIndex n field =>
      rw [Call.revise]
      split <;> rfl
    | _ => rfl

/-- What one action does to the documents of a collection, and what its entry in the log says. -/
structure Booked (name : String) (s t : MemoryStore) (entry : LogEntry) : Prop where
  documents : t.documents name =
    if entry.clears name then [] else s.documents name ++ (entry.batch? name).getD []
  inserted : entry.inserted name = ((entry.batch? name).getD []).length
  deleted : entry.deleted name = if entry.clears name then (s.documents name).length else 0

/-- What leaves the documents alone is accounted for by an entry that says nothing of them. -/
theorem booked_of_eq {t : MemoryStore} {entry : LogEntry}
    (h : t.documents name = s.documents name) (hclears : entry.clears name = false)
    (hbatch : entry.batch? name = none) (hinserted : entry.inserted name = 0)
    (hdeleted : entry.deleted name = 0) : Booked name s t entry := by
  refine ⟨?_, ?_, ?_⟩
  · simp [h, hclears, hbatch]
  · simp [hinserted, hbatch]
  · simp [hdeleted, hclears]

theorem booked_insertMany (name n : String) (s : MemoryStore) (records : List Record) :
    Booked name s (s.act (.call (.insertMany n records))).2
      (s.act (.call (.insertMany n records))).1 := by
  rw [act]
  rcases s.insertMany_cases n records with ⟨e, hfailed⟩ | ⟨t, hdone, hdocuments, -⟩
  · rw [hfailed]
    exact booked_of_eq rfl rfl rfl rfl rfl
  · rw [hdone]
    by_cases hn : n = name
    · subst hn
      refine ⟨?_, ?_, rfl⟩
      · simp [hdocuments, LogEntry.clears, LogEntry.batch?]
      · simp [LogEntry.inserted, LogEntry.batch?]
    · refine booked_of_eq ?_ rfl (if_neg hn) (if_neg hn) rfl
      rw [hdocuments, if_neg hn]

theorem booked_deleteAll (name n : String) (s : MemoryStore) :
    Booked name s (s.act (.call (.deleteAll n))).2 (s.act (.call (.deleteAll n))).1 := by
  rw [act]
  rcases s.deleteAll_cases n with ⟨e, hfailed⟩ | ⟨t, hdone, hdocuments⟩
  · rw [hfailed]
    exact booked_of_eq rfl rfl rfl rfl rfl
  · rw [hdone]
    by_cases hn : n = name
    · subst hn
      refine ⟨?_, rfl, ?_⟩
      · simp [hdocuments, LogEntry.clears]
      · simp [LogEntry.deleted, LogEntry.clears]
    · refine booked_of_eq ?_ (decide_eq_false hn) rfl rfl (if_neg hn)
      rw [hdocuments, if_neg hn]

/-- **One action** does to the documents what its entry says. -/
theorem booked_act (name : String) (s : MemoryStore) (action : Action) :
    Booked name s (s.act action).2 (s.act action).1 := by
  cases action with
  | inject operation n fault => exact booked_of_eq rfl rfl rfl rfl rfl
  | call call =>
    cases call with
    | insertMany n records => exact booked_insertMany name n s records
    | deleteAll n => exact booked_deleteAll name n s
    | _ => exact booked_of_eq (documents_handle nofun nofun) rfl rfl rfl rfl

end Documents

/-! ### Whole histories -/

/-- What a history leaves in a collection, and the balance of its answers. -/
theorem documents_replay (actions : List Action) (name : String) :
    (empty.replay actions).2.documents name = contents name (empty.replay actions).1 ∧
      ((empty.replay actions).2.documents name).length +
          deletedTotal name (empty.replay actions).1 =
        insertedTotal name (empty.replay actions).1 := by
  -- the last action comes on top of a history for which both hold
  induction actions using List.reverseRecOn with
  | nil => exact ⟨rfl, rfl⟩
  | append_singleton before action ih =>
    obtain ⟨hcontents, hbalance⟩ := ih
    obtain ⟨hdocuments, hinserted, hdeleted⟩ :=
      booked_act name (empty.replay before).2 action
    rw [replay_concat]
    refine ⟨?_, ?_⟩
    · rw [hdocuments, contents_concat, hcontents]
    · rw [deletedTotal_concat, insertedTotal_concat, hdocuments, hinserted, hdeleted]
      cases hclears : ((empty.replay before).2.act action).1.clears name with
      | true => simp [LogEntry.batch?_of_clears hclears]; omega
      | false => simp; omega

/-- What a store that a log led to holds in a collection, and what it answers next.  Every beginning
of a history is a history, so the latter is said of every call in it. -/
structure Accounts (name : String) (log : List LogEntry) (s : MemoryStore) : Prop where
  documents : s.documents name = contents name log
  /-- A batch that goes in goes in whole and conforms to a strict validator. -/
  inserted : ∀ records count, (handle (.insertMany name records) s).1 = .ok count →
    count = records.length ∧
      ∀ schema, s.validator? name = some (schema, .strict) →
        ∀ record ∈ records, schema.check record = .ok ()
  /-- One record that does not conform keeps the whole batch out. -/
  refused : ∀ schema records, s.validator? name = some (schema, .strict) →
    (∃ record ∈ records, schema.check record ≠ .ok ()) →
      ∃ e, handle (.insertMany name records) s = (.error e, s)
  deleted : ∀ count, (handle (.deleteAll name) s).1 = .ok count →
    count = (contents name log).length
  counted : ∀ count, (handle (.countDocuments name) s).1 = .ok count →
    (count : Int) = insertedTotal name log - deletedTotal name log

/-- **Nothing is lost and nothing doubled**, whatever happens to the store: a collection holds what
went in since its last deletion, and the answers add up to what it holds. -/
theorem accounts_of_replay (actions : List Action) (name : String) :
    Accounts name (empty.replay actions).1 (empty.replay actions).2 := by
  obtain ⟨hcontents, hbalance⟩ := documents_replay actions name
  generalize (empty.replay actions).1 = log at hcontents hbalance ⊢
  generalize (empty.replay actions).2 = s at hcontents hbalance ⊢
  refine ⟨hcontents, fun records count hok => ?_, fun schema records hstrict hbad => ?_,
    fun count hok => ?_, fun count hok => ?_⟩
  · rcases s.insertMany_cases name records with ⟨e, hfailed⟩ | ⟨t, hdone, -, hconforms⟩
    · rw [hfailed] at hok
      cases hok
    · rw [hdone] at hok
      exact ⟨(Except.ok.inj hok).symm, hconforms⟩
  · rcases s.insertMany_cases name records with hfailed | ⟨t, -, -, hconforms⟩
    · exact hfailed
    · obtain ⟨record, hrecord, hviolates⟩ := hbad
      exact absurd (hconforms schema hstrict record hrecord) hviolates
  · rcases s.deleteAll_cases name with ⟨e, hfailed⟩ | ⟨t, hdone, -⟩
    · rw [hfailed] at hok
      cases hok
    · rw [hdone] at hok
      rw [← hcontents, ← Except.ok.inj hok]
  · have hcount : count = (s.documents name).length := by
      rw [handle_countDocuments] at hok
      split at hok
      · cases hok
      · exact (Except.ok.inj hok).symm
    omega

end MemoryStore

end Store

end BulkProvision
