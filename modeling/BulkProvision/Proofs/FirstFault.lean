import BulkProvision.Proofs.FirstRule
import BulkProvision.Schema

/-!
# The first fault

A list of records, or of what should be records, is walked up to the first that has a fault, and a
schema names the first fault of a record.  `FirstFault` is the one with the least index, and
`Schema.FirstViolation` the one that the least names give: a required field that is absent comes
before every field of another type.  `Schema.check` finds just that violation
(`Schema.check_eq_error_iff`).
-/

namespace BulkProvision

/-! ### The first fault of a list -/

section FirstFault

variable {α ε : Type}

/-- The fault of the first element, in order, that has one. -/
def FirstFault (faulty : Nat → α → ε → Prop) (l : List α) (fault : ε) : Prop :=
  ∃ index a, l[index]? = some a ∧ faulty index a fault ∧
    ∀ earlier < index, ∀ b, l[earlier]? = some b → ∀ other, ¬ faulty earlier b other

theorem not_firstFault_nil (faulty : Nat → α → ε → Prop) (fault : ε) :
    ¬ FirstFault faulty [] fault := by
  rintro ⟨index, a, h, -⟩
  cases h

theorem firstFault_cons (faulty : Nat → α → ε → Prop) (a : α) (rest : List α) (fault : ε) :
    FirstFault faulty (a :: rest) fault ↔
      faulty 0 a fault ∨
        (∀ other, ¬ faulty 0 a other) ∧
          FirstFault (fun index => faulty (index + 1)) rest fault := by
  constructor
  · rintro ⟨index, b, hb, hfault, hearlier⟩
    cases index with
    | zero =>
      cases hb
      exact .inl hfault
    | succ index =>
      refine .inr ⟨hearlier 0 index.succ_pos a rfl, index, b, hb, hfault, ?_⟩
      exact fun earlier hlt c hc => hearlier (earlier + 1) (Nat.succ_lt_succ hlt) c hc
  · rintro (hfault | ⟨hnone, index, b, hb, hfault, hearlier⟩)
    · exact ⟨0, a, rfl, hfault, fun earlier hlt => absurd hlt earlier.not_lt_zero⟩
    · refine ⟨index + 1, b, hb, hfault, fun earlier hlt c hc => ?_⟩
      cases earlier with
      | zero =>
        cases hc
        exact hnone
      | succ earlier => exact hearlier earlier (Nat.lt_of_succ_lt_succ hlt) c hc

/-- The first fault is that of the first entry or one of the rest, where positions are counted from
a start. -/
theorem firstFault_from_cons (faulty : Nat → α → ε → Prop) (start : Nat) (a : α) (rest : List α)
    (fault : ε) :
    FirstFault (fun index => faulty (start + index)) (a :: rest) fault ↔
      faulty start a fault ∨
        (∀ other, ¬ faulty start a other) ∧
          FirstFault (fun index => faulty (start + 1 + index)) rest fault := by
  have hshift : (fun index => faulty (start + (index + 1))) =
      fun index => faulty (start + 1 + index) := by
    funext index
    rw [Nat.add_right_comm start 1, Nat.add_assoc]
  rw [firstFault_cons, hshift, Nat.add_zero]

/-- The fault of an element that has one is the first. -/
theorem firstFault_of_faulty {faulty : Nat → α → ε → Prop} {start : Nat} {a : α} {first : ε}
    (h : ∀ other, faulty start a other ↔ other = first) (rest : List α) (fault : ε) :
    FirstFault (fun index => faulty (start + index)) (a :: rest) fault ↔ fault = first := by
  rw [firstFault_from_cons, h]
  refine or_iff_left ?_
  rintro ⟨hnone, -⟩
  exact hnone first ((h first).2 rfl)

/-- An element without fault is passed over. -/
theorem firstFault_of_faultless {faulty : Nat → α → ε → Prop} {start : Nat} {a : α}
    (h : ∀ other, ¬ faulty start a other) (rest : List α) (fault : ε) :
    FirstFault (fun index => faulty (start + index)) (a :: rest) fault ↔
      FirstFault (fun index => faulty (start + 1 + index)) rest fault := by
  rw [firstFault_from_cons, or_iff_right (h fault), and_iff_right h]

end FirstFault

/-! ### The first violation of a schema -/

namespace NameMap

variable {α : Type}

theorem mem_entries_iff {m : NameMap α} {e : String × α} :
    e ∈ m.entries ↔ m.get? e.1 = some e.2 := by
  refine ⟨get?_eq_some_of_mem, fun h => ?_⟩
  rw [get?] at h
  generalize m.entries = entries at h ⊢
  induction entries with
  | nil => cases h
  | cons a rest ih =>
    rw [findEntry] at h
    split at h
    · next heq =>
      obtain rfl : a = e := Prod.ext heq (Option.some.inj h)
      exact List.mem_cons_self
    · exact List.mem_cons_of_mem _ (ih h)

/-- The first entry with a property is the one with the least name. -/
theorem find?_entries_eq_some_iff {m : NameMap α} {p : String × α → Bool} {e : String × α} :
    m.entries.find? p = some e ↔
      m.get? e.1 = some e.2 ∧ p e = true ∧
        ∀ name < e.1, ∀ value, m.get? name = some value → p (name, value) = false := by
  have hascending := m.ascending
  constructor
  · intro h
    obtain ⟨hp, before, after, hentries, hbefore⟩ := List.find?_eq_some_iff_append.1 h
    refine ⟨get?_eq_some_of_mem (List.mem_of_find?_eq_some h), hp, fun name hlt value hvalue => ?_⟩
    have hmem : (name, value) ∈ before ++ e :: after := hentries ▸ mem_entries_iff.2 hvalue
    rw [hentries] at hascending
    obtain ⟨-, hafter, -⟩ := List.pairwise_append.1 hascending
    rcases List.mem_append.1 hmem with hmem | hmem
    · simpa using hbefore _ hmem
    · rcases List.mem_cons.1 hmem with rfl | hmem
      · exact absurd hlt (String.lt_irrefl _)
      · exact absurd (String.lt_trans hlt ((List.pairwise_cons.1 hafter).1 _ hmem))
          (String.lt_irrefl _)
  · rintro ⟨hget, hp, hless⟩
    obtain ⟨before, after, hentries⟩ := List.append_of_mem (mem_entries_iff.2 hget)
    refine List.find?_eq_some_iff_append.2 ⟨hp, before, after, hentries, fun b hb => ?_⟩
    have hb' : b ∈ m.entries := hentries ▸ List.mem_append_left _ hb
    rw [hentries] at hascending
    obtain ⟨-, -, hbefore⟩ := List.pairwise_append.1 hascending
    simp [hless b.1 (hbefore b hb e List.mem_cons_self) b.2 (get?_eq_some_of_mem hb')]

theorem mem_names_iff {m : NameMap α} {name : String} :
    name ∈ m.names ↔ m.contains name = true := by
  rw [names, contains, Option.isSome_iff_exists, List.mem_map]
  constructor
  · rintro ⟨e, he, rfl⟩
    exact ⟨e.2, get?_eq_some_of_mem he⟩
  · rintro ⟨value, hvalue⟩
    exact ⟨(name, value), mem_entries_iff.2 hvalue, rfl⟩

theorem find?_names_eq_some_iff {m : NameMap α} {p : String → Bool} {name : String} :
    m.names.find? p = some name ↔
      m.contains name = true ∧ p name = true ∧
        ∀ other < name, m.contains other = true → p other = false := by
  simp only [contains, Option.isSome_iff_exists]
  rw [names, List.find?_map, Option.map_eq_some_iff]
  constructor
  · rintro ⟨e, he, rfl⟩
    obtain ⟨hget, hp, hless⟩ := find?_entries_eq_some_iff.1 he
    exact ⟨⟨e.2, hget⟩, hp, fun other hlt ⟨value, hvalue⟩ => hless other hlt value hvalue⟩
  · rintro ⟨⟨value, hvalue⟩, hp, hless⟩
    refine ⟨(name, value), find?_entries_eq_some_iff.2 ⟨hvalue, hp, ?_⟩, rfl⟩
    exact fun other hlt value hvalue => hless other hlt ⟨value, hvalue⟩

end NameMap

namespace Schema

/-- Whether a record has every required field. -/
def Complete (schema : Schema) (record : Record) : Prop :=
  ∀ name, schema.required.contains name = true → record.contains name = true

/-- Whether a field that is typed and there has its type. -/
def HasType (schema : Schema) (record : Record) (name : String) : Prop :=
  ∀ type value, schema.types.get? name = some type → record.get? name = some value →
    type.accepts value = true

/-- Whether a record passes: no required field is absent and no typed field has another type. -/
def Conforms (schema : Schema) (record : Record) : Prop :=
  schema.Complete record ∧ ∀ name, schema.HasType record name

/-- The violation that is reported: the required field of the least name that is absent, and when
none is, the typed field of the least name that has another type. -/
inductive FirstViolation (schema : Schema) (record : Record) : Violation → Prop
  | missing {field : String} (hrequired : schema.required.contains field = true)
      (habsent : record.contains field = false)
      (hfirst : ∀ name < field, schema.required.contains name = true →
        record.contains name = true) :
      FirstViolation schema record (.missing field)
  | mistyped {field : String} {type : FieldType} {value : Scalar}
      (hcomplete : schema.Complete record) (htype : schema.types.get? field = some type)
      (hvalue : record.get? field = some value) (hother : type.accepts value = false)
      (hfirst : ∀ name < field, schema.HasType record name) :
      FirstViolation schema record (.mistyped field type)

variable {schema : Schema} {record : Record}

theorem typeHolds_eq_false_iff {field : String} {type : FieldType} :
    typeHolds record field type = false ↔
      ∃ value, record.get? field = some value ∧ type.accepts value = false := by
  rw [typeHolds]
  cases record.get? field <;> simp

theorem hasType_iff (name : String) :
    schema.HasType record name ↔
      ∀ type, schema.types.get? name = some type → typeHolds record name type = true := by
  refine forall_congr' fun type => ?_
  rw [typeHolds]
  cases record.get? name <;> simp

theorem firstMissing?_eq_none_iff :
    schema.firstMissing? record = none ↔ schema.Complete record := by
  simp [firstMissing?, List.find?_eq_none, NameMap.mem_names_iff, Complete]

theorem firstMissing?_eq_some_iff {field : String} :
    schema.firstMissing? record = some field ↔
      schema.required.contains field = true ∧ record.contains field = false ∧
        ∀ name < field, schema.required.contains name = true → record.contains name = true := by
  simp [firstMissing?, NameMap.find?_names_eq_some_iff]

theorem firstMistyped?_eq_none_iff :
    schema.firstMistyped? record = none ↔ ∀ name, schema.HasType record name := by
  simp only [firstMistyped?, List.find?_eq_none, Bool.not_eq_true', Bool.not_eq_false,
    NameMap.mem_entries_iff, Prod.forall]
  exact forall_congr' fun name => (hasType_iff name).symm

theorem firstMistyped?_eq_some_iff {field : String} {type : FieldType} :
    schema.firstMistyped? record = some (field, type) ↔
      schema.types.get? field = some type ∧
        (∃ value, record.get? field = some value ∧ type.accepts value = false) ∧
          ∀ name < field, schema.HasType record name := by
  simp only [firstMistyped?, NameMap.find?_entries_eq_some_iff, Bool.not_eq_true',
    Bool.not_eq_false', hasType_iff, typeHolds_eq_false_iff]

/-- **A record is checked field by field.**  The violation named is the first. -/
theorem check_eq_error_iff {v : Violation} :
    schema.check record = .error v ↔ schema.FirstViolation record v := by
  rw [check]
  constructor
  · intro h
    split at h
    · next field hmissing =>
      cases h
      obtain ⟨hrequired, habsent, hfirst⟩ := firstMissing?_eq_some_iff.1 hmissing
      exact .missing hrequired habsent hfirst
    · next hmissing =>
      split at h
      · next field type hmistyped =>
        cases h
        obtain ⟨htype, ⟨value, hvalue, hother⟩, hfirst⟩ := firstMistyped?_eq_some_iff.1 hmistyped
        exact .mistyped (firstMissing?_eq_none_iff.1 hmissing) htype hvalue hother hfirst
      · cases h
  · rintro (⟨hrequired, habsent, hfirst⟩ | ⟨hcomplete, htype, hvalue, hother, hfirst⟩)
    · rw [firstMissing?_eq_some_iff.2 ⟨hrequired, habsent, hfirst⟩]
    · rw [firstMissing?_eq_none_iff.2 hcomplete,
        firstMistyped?_eq_some_iff.2 ⟨htype, ⟨_, hvalue, hother⟩, hfirst⟩]

theorem check_eq_ok_iff_conforms : schema.check record = .ok () ↔ schema.Conforms record := by
  rw [check_eq_ok_iff, accepts, Bool.and_eq_true, Option.isNone_iff_eq_none,
    Option.isNone_iff_eq_none, firstMissing?_eq_none_iff, firstMistyped?_eq_none_iff, Conforms]

end Schema

end BulkProvision
