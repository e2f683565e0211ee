import BulkProvision.Proofs.TidyLayer
import Mathlib.Data.List.Forall2
import Mathlib.Data.List.Induction

/-!
# Layers stacked up

The layers of a configuration are merged into one value.  Under a key, or at the end of a path into
a table, the merged value has what the layers have there, stacked up (`follow?_foldl_merge`); and in
a stack, what is not a table hides everything below it (`Value.topmost_eq_stacked`).
-/

namespace BulkProvision

namespace Config

open Value

/-! ### Values under one key -/

namespace Value

/-- Whether a value is a table. -/
def isTable : Value → Bool
  | table _ => true
  | _ => false

/-- What layers hold under a key, merged from the lowest up. -/
def stacked (values : List (Option Value)) : Option Value := values.foldl overlay none

/-- What the highest layer holds that holds anything. -/
def topmost (values : List (Option Value)) : Option Value := values.reverse.findSome? id

theorem stacked_concat (values : List (Option Value)) (value : Option Value) :
    stacked (values ++ [value]) = overlay (stacked values) value := by
  rw [stacked, List.foldl_append]
  rfl

theorem topmost_concat (values : List (Option Value)) (value : Option Value) :
    topmost (values ++ [value]) = value.or (topmost values) := by
  rw [topmost, List.reverse_append, List.reverse_singleton, List.singleton_append,
    List.findSome?_cons]
  cases value <;> rfl

theorem merge_of_not_isTable {upper : Value} (h : upper.isTable = false) (lower : Value) :
    merge lower upper = upper := by
  cases upper with
  | table entries => cases h
  | _ => rw [merge]; simp

theorem isTable_merge {upper : Value} (h : upper.isTable = true) (lower : Value) :
    (merge lower upper).isTable = true := by
  cases upper with
  | table entries => cases lower <;> rfl
  | _ => cases h

/-- **What is no table hides everything below it**; a table does so only as far as it goes. -/
theorem topmost_eq_stacked {values : List (Option Value)}
    (h : ∀ v ∈ stacked values, v.isTable = false) : topmost values = stacked values := by
  induction values using List.reverseRecOn with
  | nil => rfl
  | append_singleton values value ih =>
    rw [stacked_concat] at h ⊢
    rw [topmost_concat]
    cases value with
    | none =>
      rw [overlay_none] at h ⊢
      exact ih h
    | some upper =>
      rw [Option.some_or]
      cases hlower : stacked values with
      | none => rfl
      | some lower =>
        rw [hlower] at h
        cases htable : upper.isTable with
        | false => rw [overlay, merge_of_not_isTable htable]
        | true =>
          have hmerged := h (merge lower upper) rfl
          rw [isTable_merge htable] at hmerged
          cases hmerged

theorem follow?_singleton (v : Value) (key : String) : v.follow? [key] = v.get? key := by
  cases h : v.get? key <;> simp [follow?, h]

theorem follow?_pair (v : Value) (table key : String) :
    v.follow? [table, key] = (v.get? table).bind (·.get? key) := by
  cases h : v.get? table with
  | none => simp [follow?, h]
  | some inner =>
    rw [Option.bind_some, ← follow?_singleton]
    simp [follow?, h]

/-- Where layers hold tables only, looking into the stack is stacking what is looked up. -/
theorem get?_stacked {values : List (Option Value)}
    (h : ∀ value ∈ values, ∀ v ∈ value, Layer v) (key : String) :
    (stacked values).bind (·.get? key) = stacked (values.map (·.bind (·.get? key))) ∧
      ∀ v ∈ stacked values, Layer v := by
  induction values using List.reverseRecOn with
  | nil => exact ⟨rfl, by simp [stacked]⟩
  | append_singleton values value ih =>
    obtain ⟨hget, hlayer⟩ := ih fun value' hvalue' => h value' (List.mem_append_left _ hvalue')
    have hvalue := h value (by simp)
    rw [List.map_append, List.map_singleton, stacked_concat, stacked_concat, ← hget]
    cases value with
    | none => exact ⟨by rw [overlay_none, Option.bind_none, overlay_none], by rwa [overlay_none]⟩
    | some upper =>
      have hupper := hvalue upper rfl
      cases hlower : stacked values with
      | none => exact ⟨by simp, by simpa using hupper⟩
      | some lower =>
        have hunder := hlayer lower hlower
        refine ⟨?_, by simpa [overlay] using hunder.merge hupper⟩
        obtain ⟨below, rfl⟩ := hunder.isTable
        obtain ⟨above, rfl⟩ := hupper.isTable
        exact get?_merge hupper.tidy key

end Value

/-! ### The layers of a configuration -/

/-- The layers of a configuration, lowest first; nothing when one cannot be read. -/
def layers? (files : FileTree) (env : Environment) (dir name : String) : Option (List Value) :=
  ((layerFiles dir name).mapM (fileLayer files)).map (· ++ [Variable.layer env])

/-- What the highest layer holds that holds anything at the end of a path. -/
def highest? (layers : List Value) (path : List String) : Option Value :=
  topmost (layers.map (·.follow? path))

theorem load_eq (files : FileTree) (env : Environment) (dir name : String) :
    load files env dir name =
      (layers? files env dir name).map (·.foldl Value.merge (.table [])) := by
  rw [load, layers?, Option.map_map]
  cases (layerFiles dir name).mapM (fileLayer files) <;> rfl

theorem forall₂_of_mapM {α β : Type} {f : α → Option β} {l : List α} {m : List β}
    (h : l.mapM f = some m) : List.Forall₂ (fun a b => f a = some b) l m := by
  induction l generalizing m with
  | nil =>
    cases h
    exact .nil
  | cons a rest ih =>
    rw [List.mapM_cons] at h
    obtain ⟨b, hb, h⟩ := Option.bind_eq_some_iff.1 h
    obtain ⟨others, hothers, h⟩ := Option.bind_eq_some_iff.1 h
    cases h
    exact .cons hb (ih hothers)

/-- Every layer is a tidy table, whatever it was read from. -/
theorem layer_of_mem_layers {files : FileTree} {env : Environment} {dir name : String}
    {layers : List Value} (h : layers? files env dir name = some layers) :
    ∀ layer ∈ layers, Layer layer := by
  obtain ⟨below, hbelow, rfl⟩ := Option.map_eq_some_iff.1 h
  intro layer hlayer
  rcases List.mem_append.1 hlayer with hmem | hmem
  · obtain ⟨i, hi, rfl⟩ := List.mem_iff_getElem.1 hmem
    have hread := forall₂_of_mapM hbelow
    exact layer_fileLayer (hread.get (by rw [hread.length_eq]; exact hi) hi)
  · obtain rfl := List.mem_singleton.1 hmem
    exact Variable.layer_layer env

theorem foldl_merge_eq {layers : List Value} (h : ∀ layer ∈ layers, Layer layer) :
    Layer (layers.foldl merge (.table [])) ∧
      ∀ key, (layers.foldl merge (.table [])).get? key = stacked (layers.map (·.get? key)) := by
  induction layers using List.reverseRecOn with
  | nil => exact ⟨layer_empty, fun key => rfl⟩
  | append_singleton layers layer ih =>
    obtain ⟨hmerged, hget⟩ := ih fun l hl => h l (List.mem_append_left _ hl)
    have hlayer := h layer (by simp)
    rw [List.foldl_append]
    refine ⟨hmerged.merge hlayer, fun key => ?_⟩
    rw [List.map_append, List.map_singleton, stacked_concat, ← hget]
    obtain ⟨below, hbelow⟩ := hmerged.isTable
    obtain ⟨above, rfl⟩ := hlayer.isTable
    rw [hbelow]
    exact get?_merge hlayer.tidy key

/-- The tables that settings stand in. -/
def settingTables : List String := ["store", "bootstrap", "data"]

/-- Every layer that has one of the tables of settings has a table there. -/
def TablesHold (layers : List Value) : Prop :=
  ∀ layer ∈ layers, ∀ table ∈ settingTables, ∀ v ∈ layer.get? table, v.isTable = true

instance (layers : List Value) : Decidable (TablesHold layers) :=
  inferInstanceAs (Decidable (∀ layer ∈ layers, ∀ table ∈ settingTables,
    ∀ v ∈ layer.get? table, v.isTable = true))

theorem Layer.get? {layer v : Value} (h : Layer layer) {key : String}
    (hget : layer.get? key = some v) (htable : v.isTable = true) : Layer v := by
  obtain ⟨entries, rfl⟩ := h.isTable
  refine ⟨Value.Tidy.findEntry h.tidy hget, ?_⟩
  cases v with
  | table inner => exact ⟨inner, rfl⟩
  | _ => cases htable

/-- **Looking into the merged layers is stacking what the layers hold there**, at every path into
a table of settings. -/
theorem follow?_foldl_merge {layers : List Value} (h : ∀ layer ∈ layers, Layer layer)
    (htables : TablesHold layers) {table : String} (htable : table ∈ settingTables)
    (key : String) :
    (layers.foldl merge (.table [])).follow? [table, key] =
        stacked (layers.map (·.follow? [table, key])) ∧
      ∀ v ∈ (layers.foldl merge (.table [])).get? table, Layer v := by
  have hlayers : ∀ value ∈ layers.map (·.get? table), ∀ v ∈ value, Layer v := by
    intro value hvalue v hv
    obtain ⟨layer, hmem, rfl⟩ := List.mem_map.1 hvalue
    exact (h layer hmem).get? hv (htables layer hmem table htable v hv)
  obtain ⟨hget, htop⟩ := get?_stacked hlayers key
  simp only [follow?_pair, (foldl_merge_eq h).2]
  refine ⟨?_, htop⟩
  rw [hget, List.map_map]
  rfl

end Config

end BulkProvision
