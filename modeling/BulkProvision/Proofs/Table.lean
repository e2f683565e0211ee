import BulkProvision.Config.Value
import Mathlib.Data.List.Nodup

/-!
# Look-ups in merged tables

A look-up finds the first entry of a key, and merging goes through the entries of the upper table
one by one.  The two go together where the upper table holds each key once (`Value.Tidy`): then the
merged table has under a key what the upper one has there, over what the lower one has there
(`get?_merge`).  Merging, nesting and unwrapping keep values tidy.
-/

namespace BulkProvision

namespace Config

namespace Value

/-! ### Entries -/

theorem findEntry_setEntry (key name : String) (value : Value) (entries : List (String × Value)) :
    findEntry name (setEntry key value entries) =
      if key = name then some value else findEntry name entries := by
  induction entries with
  | nil => simp [setEntry, findEntry]
  | cons e rest ih =>
    obtain ⟨k, v⟩ := e
    rw [setEntry]
    split
    · next hk => subst hk; by_cases h : k = name <;> simp [findEntry, h]
    · next hk =>
      by_cases h : k = name
      · subst h; simp [findEntry, Ne.symm hk]
      · simp [findEntry, h, ih]

theorem mem_of_findEntry {key : String} {value : Value} {entries : List (String × Value)}
    (h : findEntry key entries = some value) : (key, value) ∈ entries := by
  induction entries with
  | nil => cases h
  | cons e rest ih =>
    rw [findEntry] at h
    split at h
    · next hk =>
      cases h
      exact hk ▸ List.mem_cons_self
    · exact List.mem_cons_of_mem _ (ih h)

theorem findEntry_eq_none {key : String} {entries : List (String × Value)}
    (h : key ∉ entries.map (·.1)) : findEntry key entries = none := by
  cases hfind : findEntry key entries with
  | none => rfl
  | some value => exact absurd (List.mem_map_of_mem (mem_of_findEntry hfind)) h

/-- A key that has a value keeps its place; any other comes last. -/
theorem keys_setEntry (key : String) (value : Value) (entries : List (String × Value)) :
    (setEntry key value entries).map (·.1) =
      if key ∈ entries.map (·.1) then entries.map (·.1) else entries.map (·.1) ++ [key] := by
  induction entries with
  | nil => rfl
  | cons e rest ih =>
    obtain ⟨k, v⟩ := e
    rw [setEntry]
    split
    · next hk => simp [hk]
    · next hk =>
      rw [List.map_cons, ih]
      by_cases h : key ∈ rest.map (·.1) <;> simp [h, Ne.symm hk]

theorem mem_setEntry {key : String} {value : Value} {e : String × Value}
    {entries : List (String × Value)} (h : e ∈ setEntry key value entries) :
    e = (key, value) ∨ e ∈ entries := by
  induction entries with
  | nil => exact .inl (List.mem_singleton.1 h)
  | cons a rest ih =>
    rw [setEntry] at h
    split at h
    · next hk =>
      rcases List.mem_cons.1 h with rfl | h
      · exact .inl (by rw [hk])
      · exact .inr (List.mem_cons_of_mem _ h)
    · rcases List.mem_cons.1 h with rfl | h
      · exact .inr List.mem_cons_self
      · exact (ih h).imp_right (List.mem_cons_of_mem _)

/-! ### Tidy values -/

/-- A value whose tables hold each key once.  What stands in a list is not asked for: lists are
never merged. -/
inductive Tidy : Value → Prop
  | plain {v : Value} (h : ∀ entries, v ≠ table entries) : Tidy v
  | table {entries : List (String × Value)} (keys : (entries.map (·.1)).Nodup)
      (values : ∀ e ∈ entries, Tidy e.2) : Tidy (table entries)

/-- Entries that make a tidy table. -/
abbrev TidyEntries (entries : List (String × Value)) : Prop := Tidy (table entries)

theorem Tidy.nodup {entries : List (String × Value)} (h : TidyEntries entries) :
    (entries.map (·.1)).Nodup := by
  cases h with
  | plain h => exact absurd rfl (h entries)
  | table keys _ => exact keys

theorem Tidy.mem {entries : List (String × Value)} (h : TidyEntries entries) :
    ∀ e ∈ entries, Tidy e.2 := by
  cases h with
  | plain h => exact absurd rfl (h entries)
  | table _ values => exact values

theorem Tidy.findEntry {entries : List (String × Value)} (h : TidyEntries entries)
    {key : String} {value : Value} (hfind : findEntry key entries = some value) : Tidy value :=
  h.mem _ (mem_of_findEntry hfind)

@[simp] theorem tidy_text (s : String) : Tidy (text s) := .plain fun _ h => by cases h
@[simp] theorem tidy_bool (b : Bool) : Tidy (bool b) := .plain fun _ h => by cases h
@[simp] theorem tidy_integer (n : Int) : Tidy (integer n) := .plain fun _ h => by cases h
@[simp] theorem tidy_real (x : Binary64) : Tidy (real x) := .plain fun _ h => by cases h
@[simp] theorem tidy_list (items : List Value) : Tidy (list items) := .plain fun _ h => by cases h

@[simp] theorem tidy_empty : TidyEntries [] := .table List.nodup_nil (by simp)

theorem tidy_singleton {key : String} {value : Value} (h : Tidy value) :
    TidyEntries [(key, value)] :=
  .table (List.nodup_singleton _) (by simpa using h)

theorem Tidy.setEntry {entries : List (String × Value)} (h : TidyEntries entries) (key : String)
    {value : Value} (hvalue : Tidy value) : TidyEntries (setEntry key value entries) := by
  refine .table ?_ fun e he => ?_
  · rw [keys_setEntry]
    split
    · exact h.nodup
    · next hkey => exact List.concat_eq_append ▸ h.nodup.concat hkey
  · rcases mem_setEntry he with rfl | he
    · exact hvalue
    · exact h.mem e he

/-! ### Merging -/

theorem Tidy.mergeEntries {lower upper : List (String × Value)} (hlower : TidyEntries lower)
    (hupper : ∀ e ∈ upper, Tidy e.2 ∧ ∀ under, Tidy under → Tidy (merge under e.2)) :
    TidyEntries (merge.mergeEntries lower upper) := by
  induction upper generalizing lower with
  | nil => exact hlower
  | cons e rest ih =>
    obtain ⟨⟨hvalue, hmerge⟩, hrest⟩ := List.forall_mem_cons.1 hupper
    rw [merge.mergeEntries]
    refine ih (hlower.setEntry e.1 ?_) hrest
    cases hfind : Value.findEntry e.1 lower with
    | none => exact hvalue
    | some under => exact hmerge under (hlower.findEntry hfind)

theorem Tidy.merge {lower upper : Value} (hlower : Tidy lower) (hupper : Tidy upper) :
    Tidy (merge lower upper) := by
  induction hupper generalizing lower with
  | @plain v h =>
    have hmerge : Value.merge lower v = v := by
      cases v with
      | table entries => exact absurd rfl (h entries)
      | _ => rw [Value.merge]; simp
    rw [hmerge]
    exact .plain h
  | @table entries keys values ih =>
    cases lower with
    | table below =>
      rw [Value.merge]
      exact hlower.mergeEntries fun e he => ⟨values e he, fun under hunder => ih e he hunder⟩
    | _ => exact .table keys values

/-- A value over what lies below it under the same key; what is not there changes nothing. -/
def overlay (lower upper : Option Value) : Option Value :=
  match lower, upper with
  | some l, some u => some (merge l u)
  | l, none => l
  | none, u => u

@[simp] theorem overlay_none (lower : Option Value) : overlay lower none = lower := by
  cases lower <;> rfl

@[simp] theorem none_overlay (upper : Option Value) : overlay none upper = upper := by
  cases upper <;> rfl

theorem findEntry_mergeEntries {lower upper : List (String × Value)}
    (hupper : (upper.map (·.1)).Nodup) (key : String) :
    findEntry key (merge.mergeEntries lower upper) =
      overlay (findEntry key lower) (findEntry key upper) := by
  induction upper generalizing lower with
  | nil =>
    rw [merge.mergeEntries]
    exact (overlay_none _).symm
  | cons e rest ih =>
    obtain ⟨k, v⟩ := e
    obtain ⟨hk, hrest⟩ := List.nodup_cons.1 hupper
    rw [merge.mergeEntries, ih hrest, findEntry_setEntry, findEntry]
    by_cases hkey : k = key
    · -- the rest does not have the key again
      subst hkey
      rw [if_pos rfl, if_pos rfl, findEntry_eq_none hk, overlay_none]
      cases findEntry k lower <;> rfl
    · rw [if_neg hkey, if_neg hkey]

/-- **What a merged table has under a key.** -/
theorem get?_merge {lower upper : List (String × Value)} (hupper : TidyEntries upper)
    (key : String) :
    (merge (table lower) (table upper)).get? key =
      overlay ((table lower).get? key) ((table upper).get? key) := by
  rw [merge]
  exact findEntry_mergeEntries hupper.nodup key

/-! ### Nesting and unwrapping -/

theorem Tidy.nest {v : Value} (h : Tidy v) (path : List String) : Tidy (nest v path) := by
  induction path with
  | nil => exact h
  | cons key rest ih => exact tidy_singleton ih

theorem exists_table_of_nest {path : List String} (h : path ≠ []) (v : Value) :
    ∃ entries, nest v path = table entries := by
  cases path with
  | nil => exact absurd rfl h
  | cons key rest => exact ⟨_, rfl⟩

theorem keys_unwrapEntries {entries unwrapped : List (String × Value)}
    (h : unwrapEntries? entries = some unwrapped) :
    unwrapped.map (·.1) = entries.map (·.1) := by
  induction entries generalizing unwrapped with
  | nil =>
    cases h
    rfl
  | cons e rest ih =>
    rw [unwrapEntries?] at h
    obtain ⟨first, -, h⟩ := Option.bind_eq_some_iff.1 h
    obtain ⟨others, hothers, h⟩ := Option.bind_eq_some_iff.1 h
    cases h
    rw [List.map_cons, List.map_cons, ih hothers]

theorem exists_unwrapped {entries unwrapped : List (String × Value)}
    (h : unwrapEntries? entries = some unwrapped) :
    ∀ e ∈ unwrapped, ∃ source ∈ entries, unwrap? source.2 = some e.2 := by
  induction entries generalizing unwrapped with
  | nil =>
    cases h
    simp
  | cons a rest ih =>
    rw [unwrapEntries?] at h
    obtain ⟨first, hfirst, h⟩ := Option.bind_eq_some_iff.1 h
    obtain ⟨others, hothers, h⟩ := Option.bind_eq_some_iff.1 h
    cases h
    refine List.forall_mem_cons.2 ⟨⟨a, List.mem_cons_self, hfirst⟩, fun e he => ?_⟩
    obtain ⟨source, hsource, hunwrap⟩ := ih hothers e he
    exact ⟨source, List.mem_cons_of_mem _ hsource, hunwrap⟩

/-- The table that a table stands for, or the value it wraps. -/
theorem Tidy.ofTable {entries : List (String × Value)} (h : TidyEntries entries) :
    Tidy (ofTable entries) := by
  rw [Value.ofTable]
  cases hwrapped : Value.findEntry wrappedKey entries with
  | some value => exact h.findEntry hwrapped
  | none =>
    exact .table (h.nodup.sublist (List.filter_sublist.map _)) fun e he =>
      h.mem e (List.mem_filter.1 he).1

theorem Tidy.unwrap {v unwrapped : Value} (hv : Tidy v) (h : unwrap? v = some unwrapped) :
    Tidy unwrapped := by
  induction hv generalizing unwrapped with
  | @plain v hplain =>
    cases v with
    | table entries => exact absurd rfl (hplain entries)
    | list items =>
      rw [unwrap?] at h
      obtain ⟨items', -, rfl⟩ := Option.map_eq_some_iff.1 h
      exact tidy_list _
    | _ =>
      cases h
      exact .plain hplain
  | @table entries keys values ih =>
    rw [unwrap?] at h
    obtain ⟨others, hothers, h⟩ := Option.bind_eq_some_iff.1 h
    split at h
    · cases h
      refine Tidy.ofTable (.table (keys_unwrapEntries hothers ▸ keys) fun e he => ?_)
      obtain ⟨source, hsource, hunwrap⟩ := exists_unwrapped hothers e he
      exact ih source hsource hunwrap
    · cases h

theorem Tidy.unwrapEntries {entries unwrapped : List (String × Value)}
    (hentries : TidyEntries entries) (h : unwrapEntries? entries = some unwrapped) :
    TidyEntries unwrapped := by
  refine .table (keys_unwrapEntries h ▸ hentries.nodup) fun e he => ?_
  obtain ⟨source, hsource, hunwrap⟩ := exists_unwrapped h e he
  exact (hentries.mem source hsource).unwrap hunwrap

end Value

end Config

end BulkProvision
