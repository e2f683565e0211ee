import BulkProvision.Proofs.NaNFree
import BulkProvision.Proofs.Source

/-!
# Every NaN of a load is counted

A record as it is read holds no NaN, and coercion puts one in exactly where it counts a field as
unparseable.  So the counts of a load are the counts of fields: those of the returned records that
hold a NaN, and those of the source that were texts with a rule and hold none (`Source.Counted`).
-/

namespace BulkProvision

namespace NameMap

variable {α β : Type}

/-- A map with the names of another, and with values made of its values, has entries made of its
entries. -/
theorem entries_eq_map {m : NameMap α} {m' : NameMap β} {f : String → α → β}
    (hnames : m'.names = m.names) (hget : ∀ name, m'.get? name = (m.get? name).map (f name)) :
    m'.entries = m.entries.map fun e => (e.1, f e.1 e.2) := by
  rw [names, names] at hnames
  have hlength := congrArg List.length hnames
  rw [List.length_map, List.length_map] at hlength
  refine List.ext_getElem (by rw [List.length_map, hlength]) fun i hi hi' => ?_
  rw [List.length_map] at hi'
  have hname : m'.entries[i].1 = m.entries[i].1 := by
    have hith := congrArg (·[i]?) hnames
    simpa [List.getElem?_eq_getElem, hi, hi'] using hith
  have hvalue := get?_eq_some_of_mem (m := m') (List.getElem_mem hi)
  rw [hname, hget, get?_eq_some_of_mem (List.getElem_mem hi'), Option.map_some,
    Option.some_inj] at hvalue
  rw [List.getElem_map, hvalue]
  exact Prod.ext hname rfl

end NameMap

namespace Coercion

variable {rules : List Rule} {record : Record} {state : Record × Stats}

theorem Converted.entries_eq (h : Converted rules record state) :
    state.1.entries = record.entries.map fun e => (e.1, (conversion? rules e.1 e.2).getD e.2) :=
  NameMap.entries_eq_map h.names h.get?

/-- Of a record without a NaN, the fields counted as unparseable are those that hold one
afterwards. -/
theorem Converted.unparseable_eq (h : Converted rules record state) (hrecord : record.NaNFree) :
    state.2.unparseable = state.1.entries.countP fun e => e.2.isNaN := by
  have hstats : state.2.unparseable = (conversions rules record).countP (·.isNaN) := by
    rw [h.stats]
    rfl
  rw [hstats, h.entries_eq, conversions, List.countP_filterMap, List.countP_map]
  refine List.countP_congr fun e he => ?_
  rw [Function.comp_apply]
  cases conversion? rules e.1 e.2 with
  | none => simp [hrecord e he]
  | some value => simp

theorem isSome_ruleFor? (field : String) :
    (ruleFor? rules field).isSome = rules.any (·.field = field) := by
  rw [ruleFor?, ← List.isSome_find?]

/-- The fields counted as converted are those that were texts with a rule and hold no NaN. -/
theorem Converted.converted_eq (h : Converted rules record state) :
    state.2.converted = record.entries.countP fun e =>
      rules.any (·.field = e.1) && e.2.asText.isSome && !(state.1.get? e.1).any Scalar.isNaN := by
  have hstats : state.2.converted = (conversions rules record).countP (!·.isNaN) := by
    rw [h.stats]
    rfl
  rw [hstats, conversions, List.countP_filterMap]
  refine List.countP_congr fun e he => ?_
  rw [← isSome_ruleFor?, ← isSome_conversion?, h.get?, NameMap.get?_eq_some_of_mem he,
    Option.map_some]
  cases conversion? rules e.1 e.2 <;> simp

end Coercion

namespace Source

/-- How many fields of the records hold a NaN. -/
def nanFields (records : List Record) : ℕ :=
  (records.map fun record => record.entries.countP fun e => e.2.isNaN).sum

/-- How many fields of the sources are texts in a field that a rule names, and are no NaN in the
records made of the sources. -/
def numericFields (rules : List Coercion.Rule) (sources records : List Record) : ℕ :=
  ((sources.zip records).map fun (source, record) => source.entries.countP fun e =>
    rules.any (·.field = e.1) && e.2.asText.isSome && !(record.get? e.1).any Scalar.isNaN).sum

/-- What a load counts, against the fields themselves. -/
structure Counted (files : FileTree) (rules : List Coercion.Rule) (path : String) (l : Loaded) :
    Prop where
  unparseable : l.coercion.unparseable = nanFields l.records
  /-- The records are made of as many sources, one each, and fields of the sources are counted. -/
  converted : ∃ sources, read files path = .ok sources ∧ sources.length = l.records.length ∧
    l.coercion.converted = numericFields rules sources l.records

variable {files : FileTree} {rules : List Coercion.Rule} {schema : Schema} {dataset : Dataset}

theorem coercion_loaded (rules : List Coercion.Rule) (records : List Record) :
    (loaded rules records).coercion.unparseable =
        (records.map fun record => (Coercion.apply rules record).2.unparseable).sum ∧
      (loaded rules records).coercion.converted =
        (records.map fun record => (Coercion.apply rules record).2.converted).sum := by
  induction records with
  | nil => exact ⟨rfl, rfl⟩
  | cons record rest ih =>
    rw [List.map_cons, List.map_cons, List.sum_cons, List.sum_cons, ← ih.1, ← ih.2]
    exact ⟨rfl, rfl⟩

/-- **A load counts its NaNs**, whatever the rules are. -/
theorem counted_of_loadDataset {l : Loaded} (h : loadDataset files rules dataset schema = .ok l) :
    Counted files rules dataset.sourcePath l := by
  obtain ⟨sources, hread, -, rfl⟩ := load_eq_ok_iff_read.1 (loadDataset_eq_ok_iff.1 h)
  have hfree := nanFree_of_read hread
  obtain ⟨hunparseable, hconverted⟩ := coercion_loaded rules sources
  refine ⟨?_, sources, hread, by rw [loaded, List.length_map], ?_⟩
  · rw [hunparseable, nanFields, loaded, List.map_map]
    refine congrArg List.sum (List.map_congr_left fun source hsource => ?_)
    exact (Coercion.converted_apply rules source).unparseable_eq (hfree source hsource)
  · have hzip : sources.zip (loaded rules sources).records =
        sources.map fun source => (source, (Coercion.apply rules source).1) := by
      have hself := List.zip_map' (l := sources) (f := id)
        (g := fun source => (Coercion.apply rules source).1)
      rwa [List.map_id] at hself
    rw [hconverted, numericFields, hzip, List.map_map]
    refine congrArg List.sum (List.map_congr_left fun source _ => ?_)
    exact (Coercion.converted_apply rules source).converted_eq

end Source

end BulkProvision
