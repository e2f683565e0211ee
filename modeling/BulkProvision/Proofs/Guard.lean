import BulkProvision.Proofs.History

/-!
# What a validator keeps out

The validator of a collection is the one that its log attached last, by making the collection or by
altering it (`validator?_replay`).  Which batches go in then depends on its level
(`guarded_of_replay`):

* a strict validator lets a batch in whole if all of it conforms, and otherwise names the first
  record that does not and leaves the store as it was;
* a moderate one lets every batch in, conforming or not.  A store in memory has no updates, so a
  moderate validator keeps nothing out of it.

Hence what a history lets in conforms to the validator of that moment where that is strict
(`conforms_of_replay`), and nothing can be said where it is moderate.
-/

namespace BulkProvision

namespace Store

namespace LogEntry

/-- The validator that a collection was given: by a creation that made it, or by an alteration. -/
def attached? (name : String) : LogEntry → Option (Schema × Enforcement)
  | answered (.createCollection n schema level) (.ok (.applied _)) =>
    if n = name then some (schema, level) else none
  | answered (.alterValidator n schema level) (.ok ()) =>
    if n = name then some (schema, level) else none
  | _ => none

end LogEntry

/-- The validator that a collection was given last. -/
def lastAttached? (name : String) (log : List LogEntry) : Option (Schema × Enforcement) :=
  (log.filterMap (LogEntry.attached? name)).getLast?

theorem lastAttached?_concat (name : String) (log : List LogEntry) (entry : LogEntry) :
    lastAttached? name (log ++ [entry]) =
      (entry.attached? name).or (lastAttached? name log) := by
  unfold lastAttached?
  rw [List.filterMap_append]
  cases hentry : entry.attached? name with
  | none => simp [hentry]
  | some validator => simp [hentry]

namespace MemoryStore

section Validator

variable {s : MemoryStore} {name key : String}

/-! ### The validator of a collection -/

theorem validator?_setCollection (s : MemoryStore) (name key : String) (c : Collection) :
    (s.setCollection name c).validator? key =
      if name = key then c.validator else s.validator? key := by
  rw [validator?, setCollection, NameMap.get?_insert]
  split <;> rfl

/-- No call but those that attach validators changes one. -/
theorem validator?_handle {call : Call}
    (hcreate : ∀ n schema level, call ≠ .createCollection n schema level)
    (halter : ∀ n schema level, call ≠ .alterValidator n schema level) :
    (handle call s).2.validator? key = s.validator? key := by
  rcases s.handle_cases call with hslots | ⟨name, -, hstate⟩
  · exact congrArg (fun k : Slot => k.collection?.bind (·.validator)) (hslots key)
  · rw [hstate, validator?_setCollection]
    split
    · next heq =>
      subst heq
      rw [validator?_eq]
      cases call with
      | createCollection n schema level => exact absurd rfl (hcreate n schema level)
      | alterValidator n schema level => exact absurd rfl (halter n schema level)
      | createIndex n field =>
        rw [Call.revise]
        split <;> rfl
      | _ => rfl
    · rfl

theorem validator?_createCollection (name n : String) (s : MemoryStore) (schema : Schema)
    (level : Enforcement) :
    (s.act (.call (.createCollection n schema level))).2.validator? name =
      ((s.act (.call (.createCollection n schema level))).1.attached? name).or
        (s.validator? name) := by
  rw [act, handle_createCollection]
  cases (s.slot n).refusal? "create_collection" n with
  | some e => rfl
  | none =>
    cases (s.slot n).collection? with
    | some c => rfl
    | none =>
      simp only [validator?_setCollection, LogEntry.attached?]
      split <;> rfl

theorem validator?_alterValidator (name n : String) (s : MemoryStore) (schema : Schema)
    (level : Enforcement) :
    (s.act (.call (.alterValidator n schema level))).2.validator? name =
      ((s.act (.call (.alterValidator n schema level))).1.attached? name).or
        (s.validator? name) := by
  rw [act, handle_alterValidator]
  cases (s.slot n).refusal? "alter_collection_validator" n with
  | some e => rfl
  | none =>
    cases (s.slot n).collection? with
    | none => rfl
    | some c =>
      simp only [validator?_setCollection, LogEntry.attached?]
      split <;> rfl

/-- **One action** attaches the validator that its entry says. -/
theorem validator?_act (name : String) (s : MemoryStore) (action : Action) :
    (s.act action).2.validator? name =
      ((s.act action).1.attached? name).or (s.validator? name) := by
  cases action with
  | inject operation n fault => rfl
  | call call =>
    cases call with
    | createCollection n schema level => exact validator?_createCollection name n s schema level
    | alterValidator n schema level => exact validator?_alterValidator name n s schema level
    | _ => exact validator?_handle nofun nofun

/-- The validator of a collection is the one attached last, however often it was replaced. -/
theorem validator?_replay (actions : List Action) (name : String) :
    (empty.replay actions).2.validator? name =
      lastAttached? name (empty.replay actions).1 := by
  induction actions using List.reverseRecOn with
  | nil => rfl
  | append_singleton before action ih =>
    rw [replay_concat, lastAttached?_concat, validator?_act, ih]

end Validator

/-! ### What a history lets in -/

/-- The store with a batch after the documents of a collection. -/
def appended (s : MemoryStore) (name : String) (records : List Record) : MemoryStore :=
  s.setCollection name
    { s.collection name with documents := s.documents name ++ records }

section Insertion

variable {s : MemoryStore} {name : String} {schema : Schema} {level : Enforcement}
  {records : List Record}

theorem refusal?_eq_none (h : s.fault? "insert_many" name = none) :
    (s.slot name).refusal? "insert_many" name = none :=
  congrArg (Option.map _) h

theorem handle_insertMany_of_conforms (hfault : s.fault? "insert_many" name = none)
    (hvalidator : s.validator? name = some (schema, level))
    (hrecords : ∀ record ∈ records, schema.check record = .ok ()) :
    handle (.insertMany name records) s = (.ok records.length, s.appended name records) := by
  have hheld : (s.slot name).collection.validator = some (schema, level) :=
    (s.validator?_eq name).symm.trans hvalidator
  rw [s.handle_insertMany_of_check name hheld hrecords, refusal?_eq_none hfault]
  rfl

/-- A moderate validator is not looked at. -/
theorem handle_insertMany_of_moderate (hfault : s.fault? "insert_many" name = none)
    (hvalidator : s.validator? name = some (schema, .moderate)) :
    handle (.insertMany name records) s = (.ok records.length, s.appended name records) := by
  have hguard : (s.slot name).collection.guard? = none := by
    rw [Collection.guard?, show (s.slot name).collection = s.collection name from rfl,
      ← s.validator?_eq name, hvalidator]
  rw [handle_insertMany, refusal?_eq_none hfault, hguard]
  rfl

/-- A strict validator refuses a batch for its first record that does not conform. -/
theorem handle_insertMany_of_violates (hfault : s.fault? "insert_many" name = none)
    (hvalidator : s.validator? name = some (schema, .strict))
    (hrecords : ∃ record ∈ records, schema.check record ≠ .ok ()) :
    ∃ index record v, records[index]? = some record ∧ schema.check record = .error v ∧
      (∀ earlier ∈ records.take index, schema.check earlier = .ok ()) ∧
      handle (.insertMany name records) s =
        (.error (.rejected "insert_many" name
          ("Document failed validation (index " ++ toString index ++ "): " ++ v.message)), s) := by
  cases hfound : firstViolation? schema records with
  | none =>
    obtain ⟨record, hmem, hviolates⟩ := hrecords
    exact absurd (firstViolation?_eq_none_iff.1 hfound record hmem) hviolates
  | some found =>
    obtain ⟨record, hrecord, hcheck, hbefore⟩ := firstViolation?_eq_some_iff.1 hfound
    refine ⟨found.1, record, found.2, hrecord, hcheck, hbefore, ?_⟩
    have hrefusal : s.refusal? (.insertMany name records) = none := congrArg (Option.map _) hfault
    exact handle_of_cause (.objection hrefusal (.violation hvalidator hrecord hcheck hbefore))

end Insertion

/-- What went into a collection while a strict validator was attached to it conforms to that. -/
def Conforms (name : String) (log : List LogEntry) : Prop :=
  ∀ before entry after records schema, log = before ++ entry :: after →
    entry.batch? name = some records → lastAttached? name before = some (schema, .strict) →
    ∀ record ∈ records, schema.check record = .ok ()

/-- **One action** lets nothing into a strict collection that does not conform. -/
theorem check_of_batch? {s : MemoryStore} {action : Action} {name : String} {schema : Schema}
    {records : List Record} (hbatch : (s.act action).1.batch? name = some records)
    (hvalidator : s.validator? name = some (schema, .strict)) :
    ∀ record ∈ records, schema.check record = .ok () := by
  cases action with
  | inject operation n fault => cases hbatch
  | call call =>
    cases call with
    | insertMany n batch =>
      rw [act] at hbatch
      rcases s.insertMany_cases n batch with ⟨e, hfailed⟩ | ⟨t, hdone, -, hconforms⟩
      · rw [hfailed] at hbatch
        cases hbatch
      · rw [hdone] at hbatch
        obtain ⟨rfl, heq⟩ := Option.ite_none_right_eq_some.1 hbatch
        obtain rfl := Option.some.inj heq
        exact hconforms schema hvalidator
    | _ => cases hbatch

theorem conforms_concat {name : String} {log : List LogEntry} {entry : LogEntry}
    (hlog : Conforms name log)
    (hentry : ∀ records schema, entry.batch? name = some records →
      lastAttached? name log = some (schema, .strict) →
      ∀ record ∈ records, schema.check record = .ok ()) :
    Conforms name (log ++ [entry]) := by
  intro before entry' after records schema hsplit hbatch hattached
  -- the batch is that of the new entry, or of one in the log before it
  rcases List.eq_nil_or_concat' after with rfl | ⟨between, last, rfl⟩
  · obtain ⟨rfl, heq⟩ := List.append_inj' hsplit rfl
    obtain rfl := List.singleton_inj.1 heq
    exact hentry records schema hbatch hattached
  · rw [← List.cons_append, ← List.append_assoc] at hsplit
    obtain ⟨rfl, -⟩ := List.append_inj' hsplit rfl
    exact hlog before entry' between records schema rfl hbatch hattached

/-- **Nothing passes a strict validator that does not conform to it**, whichever validators were
attached before and after. -/
theorem conforms_of_replay (actions : List Action) (name : String) :
    Conforms name (empty.replay actions).1 := by
  -- the validator that the last action meets is the one that its history attached last
  induction actions using List.reverseRecOn with
  | nil =>
    intro before entry after _ _ hsplit
    obtain ⟨-, hcons⟩ := List.append_eq_nil_iff.1 hsplit.symm
    cases hcons
  | append_singleton before action ih =>
    rw [replay_concat]
    refine conforms_concat ih fun records schema hbatch hattached => ?_
    rw [← validator?_replay] at hattached
    exact check_of_batch? hbatch hattached

/-- How a store that a log led to lets batches into a collection. -/
structure Guarded (name : String) (log : List LogEntry) (s : MemoryStore) : Prop where
  validator : s.validator? name = lastAttached? name log
  /-- A batch that conforms goes in whole, and so does every batch if the level is moderate. -/
  taken : ∀ schema level records, s.validator? name = some (schema, level) →
    s.fault? "insert_many" name = none →
    (level = .moderate ∨ ∀ record ∈ records, schema.check record = .ok ()) →
      handle (.insertMany name records) s = (.ok records.length, s.appended name records)
  /-- A strict validator names the first record that does not conform, and nothing goes in. -/
  refused : ∀ schema records, s.validator? name = some (schema, .strict) →
    s.fault? "insert_many" name = none →
    (∃ record ∈ records, schema.check record ≠ .ok ()) →
      ∃ index record v, records[index]? = some record ∧ schema.check record = .error v ∧
        (∀ earlier ∈ records.take index, schema.check earlier = .ok ()) ∧
        handle (.insertMany name records) s =
          (.error (.rejected "insert_many" name
            ("Document failed validation (index " ++ toString index ++ "): " ++ v.message)), s)
  conforms : Conforms name log

/-- **Only strict validators guard**: in every state that a history leads to, the validator of a
collection is the one attached last, and it keeps records out if its level is strict and only
then. -/
theorem guarded_of_replay (actions : List Action) (name : String) :
    Guarded name (empty.replay actions).1 (empty.replay actions).2 := by
  refine ⟨validator?_replay actions name, fun schema level records hvalidator hfault htaken => ?_,
    fun schema records hvalidator hfault hviolates => ?_, conforms_of_replay actions name⟩
  · rcases htaken with rfl | hconforms
    · exact handle_insertMany_of_moderate hfault hvalidator
    · exact handle_insertMany_of_conforms hfault hvalidator hconforms
  · exact handle_insertMany_of_violates hfault hvalidator hviolates

/-- A batch that goes in while the validator is moderate, and is kept out once it is strict. -/
theorem guarded_of_replay_altered :
    let station : Record :=
      NameMap.ofList [("station_id", .text "S1"), ("date", .text "2024-01-01"),
        ("location", .text "Oslo")]
    let batch := [station, station.erase "location"]
    let created := [Action.call (.createCollection "stations" Schema.station .moderate)]
    let altered := created ++ [.call (.alterValidator "stations" Schema.station .strict)]
    let lax := (empty.replay created).2
    let strict := (empty.replay altered).2
    handle (.insertMany "stations" batch) lax = (.ok 2, lax.appended "stations" batch) ∧
      (handle (.insertMany "stations" batch) strict).2 = strict := by
  intro station batch created altered lax strict
  have hbad : ∃ record ∈ batch, Schema.station.check record ≠ .ok () :=
    ⟨station.erase "location", by simp [batch], by decide +kernel⟩
  refine ⟨?_, ?_⟩
  · exact (guarded_of_replay created "stations").taken Schema.station .moderate batch rfl rfl
      (.inl rfl)
  · obtain ⟨index, record, v, -, -, -, hrefused⟩ :=
      (guarded_of_replay altered "stations").refused Schema.station batch rfl rfl hbad
    rw [hrefused]

end MemoryStore

end Store

end BulkProvision
