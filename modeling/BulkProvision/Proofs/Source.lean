import BulkProvision.Source

/-!
# What a load returns

A source that loads holds only records that conform to the schema after coercion: the first that
does not is the fault of the load (`check_of_mem_loadDataset`).  It holds as many of them as are
counted in the file (`countRecords_of_loadDataset`).  A load that fails does not end a run
(`isFatal_of_loadDataset`).
-/

namespace BulkProvision

namespace Source

variable {files : FileTree} {rules : List Coercion.Rule} {dataset : Dataset} {schema : Schema}

/-- What records are loaded as, when all of them pass. -/
def loaded (rules : List Coercion.Rule) (records : List Record) : Loaded :=
  ⟨records.map fun record => (Coercion.apply rules record).1,
    records.foldr (fun record stats => (Coercion.apply rules record).2 + stats) .zero⟩

theorem prepareFrom_eq_ok_iff {index : Nat} {records : List Record} {l : Loaded} :
    prepareFrom rules schema index records = .ok l ↔
      (∀ record ∈ records, schema.check (Coercion.apply rules record).1 = .ok ()) ∧
        l = loaded rules records := by
  induction records generalizing index l with
  | nil => simp [prepareFrom, loaded, eq_comm]
  | cons record rest ih =>
    rw [prepareFrom, List.forall_mem_cons]
    cases schema.check (Coercion.apply rules record).1 with
    | error v => simp
    | ok _ =>
      cases hprepared : prepareFrom rules schema (index + 1) rest with
      | error fault =>
        have hnot : ¬ ∀ r ∈ rest, schema.check (Coercion.apply rules r).1 = .ok () :=
          fun hall => by
            have hok := (@ih (index + 1) _).2 ⟨hall, rfl⟩
            rw [hprepared] at hok
            cases hok
        simp [hnot]
      | ok others =>
        obtain ⟨hall, rfl⟩ := ih.1 hprepared
        simpa [loaded, eq_comm] using fun _ => hall

/-- What loads is what is read, coerced, and all of it passes. -/
theorem load_eq_ok_iff_read {path : String} {l : Loaded} :
    load files rules schema path = .ok l ↔
      ∃ records, read files path = .ok records ∧
        (∀ record ∈ records, schema.check (Coercion.apply rules record).1 = .ok ()) ∧
          l = loaded rules records := by
  rw [load]
  cases read files path with
  | error fault => simp
  | ok records => simp [prepareFrom_eq_ok_iff]

theorem loadDataset_eq_ok_iff {l : Loaded} :
    loadDataset files rules dataset schema = .ok l ↔
      load files rules schema dataset.sourcePath = .ok l := by
  rw [loadDataset]
  cases load files rules schema dataset.sourcePath <;> simp

/-- **Loaded records conform to the schema.** -/
theorem check_of_mem_loadDataset {l : Loaded}
    (h : loadDataset files rules dataset schema = .ok l) :
    ∀ record ∈ l.records, schema.check record = .ok () := by
  obtain ⟨records, -, hall, rfl⟩ := load_eq_ok_iff_read.1 (loadDataset_eq_ok_iff.1 h)
  exact List.forall_mem_map.2 hall

/-- Loading drops no record: what loads is counted as many times as it is loaded. -/
theorem countRecords_of_loadDataset {l : Loaded}
    (h : loadDataset files rules dataset schema = .ok l) :
    countRecords files dataset = .ok l.records.length := by
  obtain ⟨records, hread, -, rfl⟩ := load_eq_ok_iff_read.1 (loadDataset_eq_ok_iff.1 h)
  rw [countRecords, hread, loaded, List.length_map]

/-- A source that does not load is a fault of its dataset alone. -/
theorem isFatal_of_loadDataset {e : Error}
    (h : loadDataset files rules dataset schema = .error e) : e.isFatal = false := by
  rw [loadDataset] at h
  split at h
  · cases h
  · cases h
    rfl

end Source

end BulkProvision
