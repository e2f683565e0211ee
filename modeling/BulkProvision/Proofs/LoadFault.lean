import BulkProvision.Proofs.FirstFault
import BulkProvision.Proofs.RepeatedField
import BulkProvision.Proofs.Source

/-!
# Which fault a load reports

A source can have many faults at once.  `Source.Faulty` says which of them is reported: what keeps
the text from being read comes before what keeps an item from being a record, wherever that item
stands, and this before every violation of the schema.  Among items, and among records, the first
one with a fault counts, and in it the first field: in an object the one that is written first, in
a schema the one of the least name.

The reading functions find just that fault, one spec lemma each (`read_eq_error_iff`,
`load_eq_error_iff`).  So a load and a count of the same file report the same fault, or agree about
the number of records (`reports_loadDataset`).
-/

namespace BulkProvision

namespace Source

/-! ### What is in a file -/

/-- A file is a text that is an array of these items, as they are written. -/
def HoldsItems (files : FileTree) (path : String) (written : List Json) : Prop :=
  ∃ content, files.find? path = some (.text content) ∧
    Json.writtenOfText? content = some (.array written)

/-- An item is an object of scalars, and the record has what is written last of each field. -/
def ReadsAs (item : Json) (record : Record) : Prop :=
  ∃ fields, item = .object fields ∧ Json.firstNested? fields = none ∧ record.Holds fields

/-- What keeps an item from being a record. -/
inductive ItemFault (index : Nat) (item : Json) : Fault → Prop
  | notObject (h : ∀ fields, item ≠ .object fields) : ItemFault index item (.notObject index)
  | notScalar {fields : List (String × Json)} {name : String} (hitem : item = .object fields)
      (hname : Json.firstNested? fields = some name) :
      ItemFault index item (.notScalar index ⟨name⟩)

/-- What keeps a file from being read as items. -/
inductive FileFault (files : FileTree) (path : String) : Fault → Prop
  | missing (h : files.isFile path = false) : FileFault files path (.missing path)
  | undecodable (h : files.find? path = some .undecodable) :
      FileFault files path (.undecodable path)
  | notArray {content : String} (h : files.find? path = some (.text content))
      (harray : ∀ written, Json.writtenOfText? content ≠ some (.array written)) :
      FileFault files path (.notArray path)

/-- What keeps a file from being read as records: a fault of the file, or else the fault of its
first item that has one. -/
inductive Unreadable (files : FileTree) (path : String) : Fault → Prop
  | file {fault : Fault} (h : FileFault files path fault) : Unreadable files path fault
  | item {written : List Json} {fault : Fault} (hitems : HoldsItems files path written)
      (hfirst : FirstFault ItemFault written fault) : Unreadable files path fault

/-- What is wrong with a record after coercion. -/
inductive RecordFault (rules : List Coercion.Rule) (schema : Schema) (index : Nat)
    (record : Record) : Fault → Prop
  | violation {v : Schema.Violation}
      (h : schema.FirstViolation (Coercion.apply rules record).1 v) :
      RecordFault rules schema index record (.violation index v)

/-- The fault that is reported of a file. -/
inductive Faulty (files : FileTree) (rules : List Coercion.Rule) (schema : Schema)
    (path : String) : Fault → Prop
  | unreadable {fault : Fault} (h : Unreadable files path fault) :
      Faulty files rules schema path fault
  | violation {written : List Json} {records : List Record} {fault : Fault}
      (hitems : HoldsItems files path written) (hrecords : List.Forall₂ ReadsAs written records)
      (hfirst : FirstFault (RecordFault rules schema) records fault) :
      Faulty files rules schema path fault

/-! ### Reading -/

theorem isFile_eq_false_iff {files : FileTree} {path : String} :
    files.isFile path = false ↔
      (∀ content, files.find? path ≠ some (.text content)) ∧
        files.find? path ≠ some .undecodable := by
  rw [FileTree.isFile]
  rcases files.find? path with - | ⟨content | - | -⟩ <;> simp

theorem settle_eq_array_iff {v : Json} {read : List Json} :
    v.settle = .array read ↔ ∃ written, v = .array written ∧ read = written.map Json.settle := by
  cases v with
  | array written => simp [Json.settle_array, eq_comm]
  | object fields => simp [Json.settle_object_eq]
  | _ => simp [Json.settle]

theorem ofText?_eq_array_iff {content : String} {read : List Json} :
    Json.ofText? content = some (.array read) ↔
      ∃ written, Json.writtenOfText? content = some (.array written) ∧
        read = written.map Json.settle := by
  rw [Json.ofText?_eq, Option.map_eq_some_iff]
  constructor
  · rintro ⟨v, hv, hsettle⟩
    obtain ⟨written, rfl, rfl⟩ := settle_eq_array_iff.1 hsettle
    exact ⟨written, hv, rfl⟩
  · rintro ⟨written, hwritten, rfl⟩
    exact ⟨_, hwritten, Json.settle_array written⟩

theorem items_eq_ok_iff {files : FileTree} {path : String} {read : List Json} :
    items files path = .ok read ↔
      ∃ written, HoldsItems files path written ∧ read = written.map Json.settle := by
  rw [items]
  constructor
  · intro h
    split at h
    · next content hfile =>
      split at h
      · next hread =>
        cases h
        obtain ⟨written, hwritten, rfl⟩ := ofText?_eq_array_iff.1 hread
        exact ⟨written, ⟨content, hfile, hwritten⟩, rfl⟩
      · cases h
    · cases h
    · cases h
  · rintro ⟨written, ⟨content, hfile, hwritten⟩, rfl⟩
    rw [hfile]
    dsimp only
    rw [ofText?_eq_array_iff.2 ⟨written, hwritten, rfl⟩]

theorem items_eq_error_iff {files : FileTree} {path : String} {fault : Fault} :
    items files path = .error fault ↔ FileFault files path fault := by
  rw [items]
  constructor
  · intro h
    split at h
    · next content hfile =>
      split at h
      · cases h
      · next harray =>
        cases h
        exact .notArray hfile fun written hwritten =>
          harray _ (ofText?_eq_array_iff.2 ⟨written, hwritten, rfl⟩)
    · next hfile =>
      cases h
      exact .undecodable hfile
    · next htext hundecodable =>
      cases h
      exact .missing (isFile_eq_false_iff.2 ⟨htext, hundecodable⟩)
  · rintro (hmissing | hundecodable | ⟨hfile, harray⟩)
    · obtain ⟨htext, hundecodable⟩ := isFile_eq_false_iff.1 hmissing
      split
      · next hfile => exact absurd hfile (htext _)
      · next hfile => exact absurd hfile hundecodable
      · rfl
    · rw [hundecodable]
    · rw [hfile]
      dsimp only
      split
      · next hread =>
        obtain ⟨written, hwritten, -⟩ := ofText?_eq_array_iff.1 hread
        exact absurd hwritten (harray written)
      · rfl

theorem record_eq_error_iff {index : Nat} {item : Json} {fault : Fault} :
    record index item.settle = .error fault ↔ ItemFault index item fault := by
  constructor
  · intro h
    cases item with
    | object fields =>
      rw [Json.settle_object_eq, record] at h
      split at h
      · cases h
      · next e hfields =>
        cases h
        exact .notScalar rfl (Record.ofFields_eq_error_iff.1 hfields)
    | array items =>
      rw [Json.settle_array] at h
      cases h
      exact .notObject fun fields => by simp
    | _ =>
      cases h
      exact .notObject fun fields => by simp
  · rintro (hobject | ⟨rfl, hname⟩)
    · cases item with
      | object fields => exact absurd rfl (hobject fields)
      | array items => rw [Json.settle_array, record]; simp
      | _ => rfl
    · rw [Json.settle_object_eq, record, Record.ofFields_eq_error_iff.2 hname]

theorem record_eq_ok_iff {index : Nat} {item : Json} {r : Record} :
    record index item.settle = .ok r ↔ ReadsAs item r := by
  constructor
  · intro h
    cases item with
    | object fields =>
      rw [Json.settle_object_eq, record] at h
      split at h
      · next hfields =>
        cases h
        exact ⟨fields, rfl, Record.ofFields_eq_ok_iff.1 hfields⟩
      · cases h
    | array items =>
      rw [Json.settle_array] at h
      cases h
    | _ => cases h
  · rintro ⟨fields, rfl, hfields⟩
    rw [Json.settle_object_eq, record, Record.ofFields_eq_ok_iff.2 hfields]

/-- Items are read one by one, up to the first that is no record. -/
theorem recordsFrom_eq_error_iff {index : Nat} {written : List Json} {fault : Fault} :
    recordsFrom index (written.map Json.settle) = .error fault ↔
      FirstFault (fun i => ItemFault (index + i)) written fault := by
  induction written generalizing index with
  | nil => simp [recordsFrom, not_firstFault_nil]
  | cons item rest ih =>
    rw [firstFault_from_cons, ← ih, List.map_cons, recordsFrom]
    simp only [← record_eq_error_iff]
    cases record index item.settle with
    | error other => simp
    | ok first => cases recordsFrom (index + 1) (rest.map Json.settle) <;> simp

theorem recordsFrom_eq_ok_iff {index : Nat} {written : List Json} {records : List Record} :
    recordsFrom index (written.map Json.settle) = .ok records ↔
      List.Forall₂ ReadsAs written records := by
  induction written generalizing index records with
  | nil => simp [recordsFrom, eq_comm]
  | cons item rest ih =>
    have hitem : ∀ r, ReadsAs item r ↔ record index item.settle = .ok r :=
      fun r => record_eq_ok_iff.symm
    have hrest : ∀ others, List.Forall₂ ReadsAs rest others ↔
        recordsFrom (index + 1) (rest.map Json.settle) = .ok others := fun others => ih.symm
    simp only [List.forall₂_cons_left_iff, hitem, hrest]
    rw [List.map_cons, recordsFrom]
    cases record index item.settle with
    | error other => simp
    | ok first =>
      cases recordsFrom (index + 1) (rest.map Json.settle) with
      | error other => simp
      | ok others => simp [eq_comm]

/-- The fault of a file that is not read is that of the file, or of its first item with one. -/
theorem read_eq_error_iff {files : FileTree} {path : String} {fault : Fault} :
    read files path = .error fault ↔ Unreadable files path fault := by
  rw [read]
  constructor
  · intro h
    split at h
    · next hitems =>
      cases h
      exact .file (items_eq_error_iff.1 hitems)
    · next hitems =>
      obtain ⟨written, hwritten, rfl⟩ := items_eq_ok_iff.1 hitems
      have hfirst := recordsFrom_eq_error_iff.1 h
      simp only [Nat.zero_add] at hfirst
      exact .item hwritten hfirst
  · rintro (hfile | ⟨hwritten, hfirst⟩)
    · rw [items_eq_error_iff.2 hfile]
    · rw [items_eq_ok_iff.2 ⟨_, hwritten, rfl⟩]
      refine recordsFrom_eq_error_iff.2 ?_
      simpa only [Nat.zero_add] using hfirst

theorem read_eq_ok_iff {files : FileTree} {path : String} {records : List Record} :
    read files path = .ok records ↔
      ∃ written, HoldsItems files path written ∧ List.Forall₂ ReadsAs written records := by
  rw [read]
  constructor
  · intro h
    split at h
    · cases h
    · next hitems =>
      obtain ⟨written, hwritten, rfl⟩ := items_eq_ok_iff.1 hitems
      exact ⟨written, hwritten, recordsFrom_eq_ok_iff.1 h⟩
  · rintro ⟨written, hwritten, hrecords⟩
    rw [items_eq_ok_iff.2 ⟨written, hwritten, rfl⟩]
    exact recordsFrom_eq_ok_iff.2 hrecords

/-! ### Loading -/

variable {rules : List Coercion.Rule} {schema : Schema}

theorem recordFault_iff {index : Nat} {record : Record} {fault : Fault} :
    RecordFault rules schema index record fault ↔
      ∃ v, schema.check (Coercion.apply rules record).1 = .error v ∧
        fault = .violation index v := by
  constructor
  · rintro ⟨h⟩
    exact ⟨_, Schema.check_eq_error_iff.2 h, rfl⟩
  · rintro ⟨v, h, rfl⟩
    exact .violation (Schema.check_eq_error_iff.1 h)

/-- Records are coerced and checked one by one, up to the first that violates the schema. -/
theorem prepareFrom_eq_error_iff {index : Nat} {records : List Record} {fault : Fault} :
    prepareFrom rules schema index records = .error fault ↔
      FirstFault (fun i => RecordFault rules schema (index + i)) records fault := by
  induction records generalizing index with
  | nil => simp [prepareFrom, not_firstFault_nil]
  | cons record rest ih =>
    rw [firstFault_from_cons, ← ih, prepareFrom]
    simp only [recordFault_iff]
    cases schema.check (Coercion.apply rules record).1 with
    | error v => simp [eq_comm]
    | ok _ => cases prepareFrom rules schema (index + 1) rest <;> simp

/-- **One fault is reported**, of all that a file may have. -/
theorem load_eq_error_iff {files : FileTree} {path : String} {fault : Fault} :
    load files rules schema path = .error fault ↔ Faulty files rules schema path fault := by
  rw [load]
  constructor
  · intro h
    split at h
    · next hread =>
      cases h
      exact .unreadable (read_eq_error_iff.1 hread)
    · next hread =>
      obtain ⟨written, hwritten, hrecords⟩ := read_eq_ok_iff.1 hread
      have hfirst := prepareFrom_eq_error_iff.1 h
      simp only [Nat.zero_add] at hfirst
      exact .violation hwritten hrecords hfirst
  · rintro (hunreadable | ⟨hwritten, hrecords, hfirst⟩)
    · rw [read_eq_error_iff.2 hunreadable]
    · rw [read_eq_ok_iff.2 ⟨_, hwritten, hrecords⟩]
      refine prepareFrom_eq_error_iff.2 ?_
      simpa only [Nat.zero_add] using hfirst

theorem load_eq_ok_iff {files : FileTree} {path : String} {l : Loaded} :
    load files rules schema path = .ok l ↔
      ∃ written records, HoldsItems files path written ∧ List.Forall₂ ReadsAs written records ∧
        (∀ record ∈ records, schema.Conforms (Coercion.apply rules record).1) ∧
          l = loaded rules records := by
  simp only [load_eq_ok_iff_read, read_eq_ok_iff, Schema.check_eq_ok_iff_conforms]
  constructor
  · rintro ⟨records, ⟨written, hwritten, hrecords⟩, hall⟩
    exact ⟨written, records, hwritten, hrecords, hall⟩
  · rintro ⟨written, records, hwritten, hrecords, hall⟩
    exact ⟨records, ⟨written, hwritten, hrecords⟩, hall⟩

theorem load_eq_missing_iff {files : FileTree} {path : String} :
    load files rules schema path = .error (.missing path) ↔ files.isFile path = false := by
  rw [load_eq_error_iff]
  refine ⟨?_, fun h => .unreadable (.file (.missing h))⟩
  rintro (⟨hfile | ⟨-, index, item, -, hitem, -⟩⟩ | ⟨-, -, index, record, -, hrecord, -⟩)
  · cases hfile with
    | missing h => exact h
  · cases hitem
  · cases hrecord

/-! ### What is reported -/

/-- What is reported of the source of a dataset. -/
structure Reports (files : FileTree) (rules : List Coercion.Rule) (schema : Schema)
    (dataset : Dataset) : Prop where
  /-- A load fails exactly where there is a fault, with an error of the dataset. -/
  load_error : ∀ e, loadDataset files rules dataset schema = .error e ↔
    ∃ fault, Faulty files rules schema dataset.sourcePath fault ∧
      e = .dataFormat dataset.name fault.message
  /-- Of all faults there is only one to report. -/
  single : ∀ fault other, Faulty files rules schema dataset.sourcePath fault →
    Faulty files rules schema dataset.sourcePath other → fault = other
  /-- A load that does not fail gives one record for each item, in order, coerced, and all of them
  pass. -/
  load_ok : ∀ l, loadDataset files rules dataset schema = .ok l ↔
    ∃ written records, HoldsItems files dataset.sourcePath written ∧
      List.Forall₂ ReadsAs written records ∧
        (∀ record ∈ records, schema.Conforms (Coercion.apply rules record).1) ∧
          l = loaded rules records
  /-- A count fails exactly where the file is not read. -/
  count_error : ∀ e, countRecords files dataset = .error e ↔
    ∃ fault, Unreadable files dataset.sourcePath fault ∧
      e = .dataFormat dataset.name fault.message
  /-- A count that does not fail gives the number of items. -/
  count_ok : ∀ n, countRecords files dataset = .ok n ↔
    ∃ written, HoldsItems files dataset.sourcePath written ∧
      (∀ item ∈ written, ∃ record, ReadsAs item record) ∧ n = written.length
  /-- A count fails only as the load does. -/
  load_of_count : ∀ e, countRecords files dataset = .error e →
    loadDataset files rules dataset schema = .error e
  /-- A count comes to the number of the records that are loaded. -/
  count_of_load : ∀ l, loadDataset files rules dataset schema = .ok l →
    countRecords files dataset = .ok l.records.length

theorem loadDataset_eq_error_iff {files : FileTree} {dataset : Dataset} {e : Error} :
    loadDataset files rules dataset schema = .error e ↔
      ∃ fault, Faulty files rules schema dataset.sourcePath fault ∧
        e = .dataFormat dataset.name fault.message := by
  simp only [← load_eq_error_iff, loadDataset]
  cases load files rules schema dataset.sourcePath with
  | ok l => simp
  | error fault => simp [Fault.error, eq_comm]

theorem countRecords_eq_error_iff {files : FileTree} {dataset : Dataset} {e : Error} :
    countRecords files dataset = .error e ↔
      ∃ fault, Unreadable files dataset.sourcePath fault ∧
        e = .dataFormat dataset.name fault.message := by
  simp only [← read_eq_error_iff, countRecords]
  cases read files dataset.sourcePath with
  | ok records => simp
  | error fault => simp [Fault.error, eq_comm]

theorem exists_forall₂_iff {α β : Type} {R : α → β → Prop} {l : List α} :
    (∃ m, List.Forall₂ R l m) ↔ ∀ a ∈ l, ∃ b, R a b := by
  induction l with
  | nil => simp
  | cons a rest ih =>
    rw [List.forall_mem_cons, ← ih]
    constructor
    · rintro ⟨m, hm⟩
      obtain ⟨b, m', hb, hm', rfl⟩ := List.forall₂_cons_left_iff.1 hm
      exact ⟨⟨b, hb⟩, m', hm'⟩
    · rintro ⟨⟨b, hb⟩, m, hm⟩
      exact ⟨b :: m, hm.cons hb⟩

theorem countRecords_eq_ok_iff {files : FileTree} {dataset : Dataset} {n : Nat} :
    countRecords files dataset = .ok n ↔
      ∃ written, HoldsItems files dataset.sourcePath written ∧
        (∀ item ∈ written, ∃ record, ReadsAs item record) ∧ n = written.length := by
  have hread : countRecords files dataset = .ok n ↔
      ∃ records, read files dataset.sourcePath = .ok records ∧ n = records.length := by
    rw [countRecords]
    cases read files dataset.sourcePath <;> simp [eq_comm]
  rw [hread]
  constructor
  · rintro ⟨records, hrecords, rfl⟩
    obtain ⟨written, hwritten, hreads⟩ := read_eq_ok_iff.1 hrecords
    exact ⟨written, hwritten, exists_forall₂_iff.1 ⟨records, hreads⟩, hreads.length_eq.symm⟩
  · rintro ⟨written, hwritten, hitems, rfl⟩
    obtain ⟨records, hreads⟩ := exists_forall₂_iff.2 hitems
    exact ⟨records, read_eq_ok_iff.2 ⟨written, hwritten, hreads⟩, hreads.length_eq⟩

/-- **What loads, counts and checks report**, whatever is in the files.  The datasets that are
counted as missing are those whose load reports that. -/
theorem reports_loadDataset (files : FileTree) (rules : List Coercion.Rule) (schema : Schema) :
    (∀ dataset, Reports files rules schema dataset) ∧
      ∀ catalog, countMissing files catalog = catalog.countP fun dataset =>
        load files rules schema dataset.sourcePath = .error (.missing dataset.sourcePath) := by
  refine ⟨fun dataset => ?_, fun catalog => ?_⟩
  · refine ⟨fun e => loadDataset_eq_error_iff, fun fault other hfault hother => ?_,
      fun l => loadDataset_eq_ok_iff.trans load_eq_ok_iff, fun e => countRecords_eq_error_iff,
      fun n => countRecords_eq_ok_iff, fun e he => ?_, fun l hl => countRecords_of_loadDataset hl⟩
    · have hsame := (load_eq_error_iff.2 hfault).symm.trans (load_eq_error_iff.2 hother)
      injection hsame
    · obtain ⟨fault, hfault, rfl⟩ := countRecords_eq_error_iff.1 he
      exact loadDataset_eq_error_iff.2 ⟨fault, .unreadable hfault, rfl⟩
  · rw [countMissing]
    refine List.countP_congr fun dataset _ => ?_
    simp [load_eq_missing_iff]

/-- The first item lacks required fields, the second has a nested field and one that is written
twice, the third is no object. -/
def muddledText : String :=
  "[\x7b\"id\": 1\x7d, \x7b\"b\": \x7b\x7d, \"a\": [], \"b\": 2\x7d, 5]"

/-- A file with that text. -/
def muddledFiles : FileTree := FileTree.empty.write "muddled.json" (.text muddledText)

/-- The fault of the second item is reported: it comes before those of records and before those of
later items.  Its field `b` has no fault, since the last value counts. -/
theorem reports_loadDataset_muddled :
    let dataset : Dataset := ⟨"stations", "muddled.json", [], "id"⟩
    let reported : Error := .dataFormat "stations" "record 1: field 'a' is not a scalar value"
    loadDataset muddledFiles [] dataset Schema.station = .error reported ∧
      countRecords muddledFiles dataset = .error reported ∧
      countMissing muddledFiles [dataset] = 0 := by
  intro dataset reported
  obtain ⟨hreports, hmissing⟩ := reports_loadDataset muddledFiles [] Schema.station
  have hcount : countRecords muddledFiles dataset = .error reported := by decide +kernel
  refine ⟨(hreports dataset).load_of_count _ hcount, hcount, ?_⟩
  rw [hmissing]
  decide +kernel

end Source

end BulkProvision
