import BulkProvision.Proofs.Isolation

/-!
# Calls that fail

A call to a store in memory fails because a fault is injected for it, or because of what the
collection is: it is not there, it is partitioned by another key, or its validator refuses a record
of the batch (`Objection`, `Cause`).  A call fails exactly where there is a cause, and then the
store is what it was before the call (`state_of_error`).

Partitioning and inserting make the collection before they look at it, so this does not follow from
the order of the steps: it holds because a collection with a shard key or a validator was there
before (`opened_eq_self`).
-/

namespace BulkProvision

namespace Store

open Provision (answerError? error?)

/-- The collection without which an operation fails. -/
def Call.needs? : Call → Option String
  | alterValidator name .. => some name
  | listIndexFields name => some name
  | _ => none

namespace MemoryStore

/-- What stands against a call for which no fault is injected. -/
inductive Objection (s : MemoryStore) : Call → Error → Prop where
  | missing {call : Call} {name : String} (hneeds : call.needs? = some name)
      (hmissing : s.collections.get? name = none) :
      Objection s call (.rejected call.operation name "ns does not exist")
  | otherKey {name field present : String} {strategy how : KeyStrategy}
      (hkey : s.shardKey? name = some (present, how))
      (hother : (present, how) ≠ (field, strategy)) :
      Objection s (.partitionCollection name field strategy)
        (.rejected "partition_collection" name
          ("already sharded with a different key (" ++ present ++ ")"))
  /-- The first record that does not conform, at any place of the batch. -/
  | violation {name : String} {schema : Schema} {records : List Record} {index : Nat}
      {record : Record} {v : Schema.Violation}
      (hvalidator : s.validator? name = some (schema, .strict))
      (hrecord : records[index]? = some record) (hcheck : schema.check record = .error v)
      (hbefore : ∀ earlier ∈ records.take index, schema.check earlier = .ok ()) :
      Objection s (.insertMany name records)
        (.rejected "insert_many" name
          ("Document failed validation (index " ++ toString index ++ "): " ++ v.message))

/-- Why a call fails: an injected fault, which wins, or an objection. -/
inductive Cause (s : MemoryStore) (call : Call) : Error → Prop where
  | injected {name : String} {fault : Fault} (habout : call.collection? = some name)
      (hfault : s.fault? call.operation name = some fault) :
      Cause s call (fault.error call.operation name)
  | objection {e : Error} (hfault : s.refusal? call = none) (hobjection : Objection s call e) :
      Cause s call e

/-! ### Objections -/

theorem firstViolation?_go_eq_some_iff {schema : Schema} {records : List Record}
    {start index : Nat} {v : Schema.Violation} :
    firstViolation?.go schema start records = some (index, v) ↔
      ∃ offset record, index = start + offset ∧ records[offset]? = some record ∧
        schema.check record = .error v ∧
        ∀ earlier ∈ records.take offset, schema.check earlier = .ok () := by
  induction records generalizing start with
  | nil => simp [firstViolation?.go]
  | cons first rest ih =>
    rw [firstViolation?.go]
    cases hfirst : schema.check first with
    | error w =>
      constructor
      · intro h
        obtain ⟨rfl, rfl⟩ := Prod.mk.inj (Option.some.inj h)
        exact ⟨0, first, rfl, rfl, hfirst, by simp⟩
      · rintro ⟨offset, record, hindex, hrecord, hcheck, hbefore⟩
        cases offset with
        | zero =>
          obtain rfl := Option.some.inj hrecord
          rw [hfirst] at hcheck
          obtain rfl := Except.error.inj hcheck
          rw [hindex]
          rfl
        | succ k =>
          rw [hbefore first (by simp)] at hfirst
          cases hfirst
    | ok u =>
      rw [ih]
      constructor
      · rintro ⟨offset, record, rfl, hrecord, hcheck, hbefore⟩
        refine ⟨offset + 1, record, by omega, hrecord, hcheck, ?_⟩
        rw [List.take_succ_cons, List.forall_mem_cons]
        exact ⟨hfirst, hbefore⟩
      · rintro ⟨offset, record, rfl, hrecord, hcheck, hbefore⟩
        cases offset with
        | zero =>
          obtain rfl := Option.some.inj hrecord
          rw [hfirst] at hcheck
          cases hcheck
        | succ k =>
          rw [List.take_succ_cons, List.forall_mem_cons] at hbefore
          exact ⟨k, record, by omega, hrecord, hcheck, hbefore.2⟩

/-- The violation that a batch is refused for is that of its first record that does not conform. -/
theorem firstViolation?_eq_some_iff {schema : Schema} {records : List Record} {index : Nat}
    {v : Schema.Violation} :
    firstViolation? schema records = some (index, v) ↔
      ∃ record, records[index]? = some record ∧ schema.check record = .error v ∧
        ∀ earlier ∈ records.take index, schema.check earlier = .ok () := by
  rw [firstViolation?, firstViolation?_go_eq_some_iff]
  simp

/-- Only a strict validator guards a collection. -/
theorem guard?_eq_some_iff {c : Collection} {schema : Schema} :
    c.guard? = some schema ↔ c.validator = some (schema, .strict) := by
  rw [Collection.guard?]
  split
  · next held hvalidator => simp [hvalidator]
  · next hother => simpa using hother schema

section Answers

variable {s : MemoryStore} {call : Call} {e : Error}

/-- A call that something stands against changes nothing. -/
theorem answer_of_objection (h : Objection s call e) : s.answer call = (call.failure e, s) := by
  cases h with
  | @missing _ name hneeds hmissing =>
    cases call with
    | alterValidator _ schema level =>
      obtain rfl := Option.some.inj hneeds
      rw [answer, hmissing]
      rfl
    | listIndexFields _ =>
      obtain rfl := Option.some.inj hneeds
      rw [answer, hmissing]
      rfl
    | _ => cases hneeds
  | @otherKey name field present strategy how hkey hother =>
    have hheld : (s.slot name).collection.shardKey = some (present, how) :=
      (s.shardKey?_eq name).symm.trans hkey
    simp only [answer_partitionCollection, hheld]
    rw [if_neg fun heq => hother (Prod.ext heq.1 heq.2)]
    rfl
  | @violation name schema records index record v hvalidator hrecord hcheck hbefore =>
    have hguard : (s.slot name).collection.guard? = some schema :=
      guard?_eq_some_iff.2 ((s.validator?_eq name).symm.trans hvalidator)
    have hfound : firstViolation? schema records = some (index, v) :=
      firstViolation?_eq_some_iff.2 ⟨record, hrecord, hcheck, hbefore⟩
    rw [answer_insertMany, hguard, Option.bind_some, hfound]
    rfl

theorem objection_of_partitionCollection {name field : String} {strategy : KeyStrategy}
    (h : error? (s.answer (.partitionCollection name field strategy)).1 = some e) :
    Objection s (.partitionCollection name field strategy) e := by
  rw [answer_partitionCollection] at h
  split at h
  · cases h
  · next present how hheld =>
    split at h
    · cases h
    · next hother =>
      cases h
      exact .otherKey ((s.shardKey?_eq name).trans hheld) fun heq => hother (Prod.mk.inj heq)

theorem objection_of_insertMany {name : String} {records : List Record}
    (h : error? (s.answer (.insertMany name records)).1 = some e) :
    Objection s (.insertMany name records) e := by
  rw [answer_insertMany] at h
  split at h
  · next index v hfound =>
    cases h
    obtain ⟨schema, hguard, hviolation⟩ := Option.bind_eq_some_iff.1 hfound
    obtain ⟨record, hrecord, hcheck, hbefore⟩ := firstViolation?_eq_some_iff.1 hviolation
    exact .violation ((s.validator?_eq name).trans (guard?_eq_some_iff.1 hguard)) hrecord hcheck
      hbefore
  · cases h

/-- A call for which no fault is injected fails only where something stands against it. -/
theorem objection_of_error (h : answerError? call (s.answer call).1 = some e) :
    Objection s call e := by
  cases call with
  | createCollection name schema level =>
    rw [answer] at h
    split at h <;> cases h
  | alterValidator name schema level =>
    rw [answer] at h
    split at h
    · next hmissing =>
      cases h
      exact .missing rfl hmissing
    · cases h
  | enablePartitioning database =>
    rw [answer] at h
    split at h <;> cases h
  | partitionCollection name field strategy => exact objection_of_partitionCollection h
  | deleteAll name =>
    rw [answer] at h
    split at h <;> cases h
  | insertMany name records => exact objection_of_insertMany h
  | createIndex name field => cases h
  | ensureUser credential =>
    rw [answer] at h
    split at h <;> cases h
  | countDocuments name => cases h
  | listIndexFields name =>
    rw [answer] at h
    split at h
    · next hmissing =>
      cases h
      exact .missing rfl hmissing
    · cases h
  | close => cases h

/-! ### Failures -/

theorem answerError?_failure (hclose : call ≠ .close) :
    answerError? call (call.failure e) = some e := by
  cases call with
  | close => exact absurd rfl hclose
  | _ => rfl

/-- The calls that know faults are those about a collection. -/
theorem refusal?_eq_some_iff :
    s.refusal? call = some e ↔ ∃ name fault, call.collection? = some name ∧
      s.fault? call.operation name = some fault ∧ e = fault.error call.operation name := by
  cases habout : call.collection? with
  | none =>
    have hnone : s.refusal? call = none := by
      cases call with
      | enablePartitioning database => rfl
      | ensureUser credential => rfl
      | close => rfl
      | _ => cases habout
    simp [hnone]
  | some name =>
    rw [refusal?_of_collection? habout, Slot.refusal?, Option.map_eq_some_iff]
    simp [slot, eq_comm]

/-- **Where there is a cause** a call fails, and changes nothing. -/
theorem handle_of_cause (h : Cause s call e) : handle call s = (call.failure e, s) := by
  cases h with
  | injected habout hfault =>
    rw [handle, refusal?_eq_some_iff.2 ⟨_, _, habout, hfault, rfl⟩]
  | objection hfault hobjection =>
    rw [handle, hfault]
    exact answer_of_objection hobjection

theorem Cause.ne_close (h : Cause s call e) : call ≠ .close := by
  rintro rfl
  cases h with
  | injected habout => cases habout
  | objection hfault hobjection =>
    cases hobjection with
    | missing hneeds => cases hneeds

/-- **Where a call fails** there is a cause. -/
theorem cause_of_error (h : answerError? call (handle call s).1 = some e) : Cause s call e := by
  rw [handle] at h
  cases hrefusal : s.refusal? call with
  | some e' =>
    obtain ⟨name, fault, habout, hfault, rfl⟩ := refusal?_eq_some_iff.1 hrefusal
    rw [hrefusal, answerError?_failure fun hclose => by rw [hclose] at habout; cases habout] at h
    obtain rfl := Option.some.inj h
    exact .injected habout hfault
  | none =>
    rw [hrefusal] at h
    exact .objection hrefusal (objection_of_error h)

end Answers

/-- **A call that fails changes nothing.**  It fails exactly where a fault is injected for it, the
collection is missing or has another shard key, or a record of the batch does not conform; whatever
the cause, the store is what it was, so a collection that was not there is not there now. -/
theorem state_of_error (s : MemoryStore) (call : Call) (e : Error) :
    (answerError? call (handle call s).1 = some e ↔ Cause s call e) ∧
      (answerError? call (handle call s).1 = some e → (handle call s).2 = s) := by
  have hstate (h : answerError? call (handle call s).1 = some e) : (handle call s).2 = s := by
    rw [handle_of_cause (cause_of_error h)]
  refine ⟨⟨cause_of_error, fun hcause => ?_⟩, hstate⟩
  rw [handle_of_cause hcause]
  exact answerError?_failure hcause.ne_close

/-- A strict collection, and a fault for a collection that is not there. -/
def guardedStore : MemoryStore :=
  (empty.setCollection "stations"
    { Collection.fresh with validator := some (Schema.station, .strict) }).inject
      "insert_many" "events" .rejected

/-- The second record of the batch lacks a field; the fault keeps the other batch out. -/
theorem state_of_error_guarded :
    let station : Record :=
      NameMap.ofList [("station_id", .text "S1"), ("date", .text "2024-01-01"),
        ("location", .text "Oslo")]
    let batch := [station, station.erase "location"]
    (handle (.insertMany "stations" batch) guardedStore).2 = guardedStore ∧
      Cause guardedStore (.insertMany "stations" batch)
        (.rejected "insert_many" "stations"
          "Document failed validation (index 1): missing required field 'location'") ∧
      (handle (.insertMany "events" batch) guardedStore).2 = guardedStore ∧
      guardedStore.collections.get? "events" = none := by
  intro station batch
  have hstations : answerError? (.insertMany "stations" batch)
      (handle (.insertMany "stations" batch) guardedStore).1 =
        some (.rejected "insert_many" "stations"
          "Document failed validation (index 1): missing required field 'location'") := by
    decide +kernel
  have hevents : answerError? (.insertMany "events" batch)
      (handle (.insertMany "events" batch) guardedStore).1 =
        some (.rejected "insert_many" "events" "injected failure") := by
    decide +kernel
  obtain ⟨hcause, hunchanged⟩ := state_of_error guardedStore (.insertMany "stations" batch) _
  exact ⟨hunchanged hstations, hcause.1 hstations,
    (state_of_error guardedStore (.insertMany "events" batch) _).2 hevents, by decide +kernel⟩

end MemoryStore

end Store

end BulkProvision
