import BulkProvision.Path.Expand
import BulkProvision.Settings.Basic

/-!
# Datasets and their schemas

A catalog is the ordered list of the datasets of a run; a registry holds the schema of each.  Both
are made once from the settings and only looked into afterwards.
-/

namespace BulkProvision

/-- A dataset: where its records come from and how its collection is laid out. -/
structure Dataset where
  name : String
  sourcePath : String
  indexFields : List String
  shardKey : String
  deriving DecidableEq

/-- The datasets of a run, in the order they are worked on. -/
abbrev Catalog := List Dataset

namespace Catalog

/-- The first dataset of that name. -/
def find (catalog : Catalog) (name : String) : Except Error Dataset :=
  match List.find? (·.name = name) catalog with
  | some dataset => .ok dataset
  | none => .error (.unknownDataset name)

/-- The catalog of the configured datasets. -/
def ofSettings (env : Environment) (settings : Settings) : Catalog :=
  settings.datasets.map fun entry =>
    ⟨entry.name, Path.resolve env settings.baseDir entry.source, entry.indexFields, entry.shardKey⟩

end Catalog

/-- The schemas of the datasets, by name. -/
abbrev Registry := NameMap Schema

namespace Registry

/-- The schema of a dataset. -/
def find (registry : Registry) (name : String) : Except Error Schema :=
  match registry.get? name with
  | some schema => .ok schema
  | none => .error (.unknownDataset name)

/-- The registry in which every dataset has the station schema. -/
def ofCatalog (catalog : Catalog) : Registry :=
  NameMap.ofList (catalog.map fun dataset => (dataset.name, Schema.station))

/-- A dataset of the catalog has its schema. -/
theorem find_ofCatalog {catalog : Catalog} {dataset : Dataset} (h : dataset ∈ catalog) :
    (ofCatalog catalog).find dataset.name = .ok Schema.station := by
  have hget : (ofCatalog catalog).get? dataset.name = some Schema.station := by
    rw [ofCatalog, NameMap.get?_ofList]
    cases hfind : (catalog.map fun d => (d.name, Schema.station)).reverse.find?
        fun e => e.1 = dataset.name with
    | none =>
      rw [List.find?_eq_none] at hfind
      refine absurd (hfind (dataset.name, Schema.station) ?_) (by simp)
      exact List.mem_reverse.2 (List.mem_map_of_mem h)
    | some e =>
      obtain ⟨d, -, rfl⟩ := List.mem_map.1 (List.mem_reverse.1 (List.mem_of_find?_eq_some hfind))
      rfl
  rw [find, hget]

end Registry

end BulkProvision
