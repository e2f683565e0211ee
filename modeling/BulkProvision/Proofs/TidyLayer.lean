import BulkProvision.Config.Layers
import BulkProvision.Proofs.ReaderResult
import BulkProvision.Proofs.Table

/-!
# Layers are tidy tables

Whatever the files and the environment hold, a layer of the configuration is a table that holds
each key once, and so are the tables in it (`layer_fileLayer`, `Variable.layer_layer`).  A file
gives a key a value once, by the rules of TOML; variables are merged into one another.
-/

namespace BulkProvision

open Text Text.Reader

namespace Toml

open Config Config.Value

/-! ### Trees -/

theorem entriesToValues_set (key : String) (node : Node) (entries : Entries) :
    entriesToValues (Entries.set key node entries) =
      setEntry key node.toValue (entriesToValues entries) := by
  induction entries with
  | nil => rfl
  | cons e rest ih =>
    obtain ⟨k, n⟩ := e
    rw [Entries.set, entriesToValues, setEntry]
    split
    · rfl
    · rw [entriesToValues, ih]

theorem findEntry_entriesToValues (key : String) (entries : Entries) :
    findEntry key (entriesToValues entries) = (Entries.find? key entries).map Node.toValue := by
  induction entries with
  | nil => rfl
  | cons e rest ih =>
    obtain ⟨k, n⟩ := e
    rw [entriesToValues, findEntry, Entries.find?]
    split
    · rfl
    · exact ih

/-- Entries that stand for a tidy table. -/
def Entries.Tidy (entries : Entries) : Prop := TidyEntries (entriesToValues entries)

theorem Entries.Tidy.set {entries : Entries} (h : entries.Tidy) (key : String) {node : Node}
    (hnode : node.toValue.Tidy) : (Entries.set key node entries).Tidy := by
  rw [Entries.Tidy, entriesToValues_set]
  exact Value.Tidy.setEntry h key hnode

theorem Entries.Tidy.find {entries : Entries} (h : entries.Tidy) {key : String} {node : Node}
    (hfind : entries.find? key = some node) : node.toValue.Tidy := by
  have hvalue : findEntry key (entriesToValues entries) = some node.toValue := by
    rw [findEntry_entriesToValues, hfind]
    rfl
  exact Value.Tidy.findEntry h hvalue

theorem toValue_table_tidy {origin : Origin} {entries : Entries} :
    (Node.table origin entries).toValue.Tidy ↔ entries.Tidy := by
  rw [Node.toValue, Entries.Tidy]

theorem toValue_rows_tidy (rows : List (List (String × Node))) :
    (Node.rows rows).toValue.Tidy := by
  rw [Node.toValue]
  exact tidy_list _

/-- A change that leaves tidy entries tidy. -/
def KeepsTidy (change : Entries → Option Entries) : Prop :=
  ∀ entries changed, change entries = some changed → entries.Tidy → changed.Tidy

theorem KeepsTidy.descend {change : Entries → Option Entries} (h : KeepsTidy change)
    {dotted : Bool} {node changed : Node} (hchange : node.descend dotted change = some changed)
    (hnode : node.toValue.Tidy) : changed.toValue.Tidy := by
  cases node with
  | value v => cases hchange
  | table origin entries =>
    rw [Node.descend] at hchange
    split at hchange
    · cases hchange
    · obtain ⟨inner, hinner, rfl⟩ := Option.map_eq_some_iff.1 hchange
      exact toValue_table_tidy.2 (h entries inner hinner (toValue_table_tidy.1 hnode))
  | rows rows =>
    cases rows with
    | nil => cases hchange
    | cons last earlier =>
      obtain ⟨inner, -, rfl⟩ := Option.map_eq_some_iff.1 hchange
      exact toValue_rows_tidy _

theorem KeepsTidy.changeAt {change : Entries → Option Entries} (h : KeepsTidy change)
    (dotted : Bool) (path : List String) : KeepsTidy (changeAt dotted change path) := by
  induction path with
  | nil => exact h
  | cons key path ih =>
    intro entries changed hchange hentries
    obtain ⟨node, hnode, rfl⟩ := Option.map_eq_some_iff.1 hchange
    refine hentries.set key (ih.descend hnode ?_)
    cases hfind : Entries.find? key entries with
    | none => exact toValue_table_tidy.2 tidy_empty
    | some found => exact hentries.find hfind

theorem keepsTidy_openTable (key : String) : KeepsTidy (openTable key) := by
  intro entries changed hchange hentries
  rw [openTable] at hchange
  split at hchange
  · cases hchange
    exact hentries.set key (toValue_table_tidy.2 tidy_empty)
  · next inner hfind =>
    cases hchange
    exact hentries.set key (toValue_table_tidy.2 (toValue_table_tidy.1 (hentries.find hfind)))
  · cases hchange

theorem keepsTidy_openRow (key : String) : KeepsTidy (openRow key) := by
  intro entries changed hchange hentries
  rw [openRow] at hchange
  split at hchange
  · cases hchange
    exact hentries.set key (toValue_rows_tidy _)
  · cases hchange
    exact hentries.set key (toValue_rows_tidy _)
  · cases hchange

theorem keepsTidy_assignKey (key : String) {v : Config.Value} (hv : v.Tidy) :
    KeepsTidy (assignKey key v) := by
  intro entries changed hchange hentries
  rw [assignKey] at hchange
  split at hchange
  · cases hchange
    exact hentries.set key (by rwa [Node.toValue])
  · cases hchange

theorem keepsTidy_assign (path : List String) {v : Config.Value} (hv : v.Tidy) :
    KeepsTidy (assign path v) := by
  intro entries changed hchange hentries
  rw [assign] at hchange
  split at hchange
  · cases hchange
  · next key _ =>
    split at hchange
    · exact (keepsTidy_assignKey key hv).changeAt true _ entries changed hchange hentries
    · cases hchange

theorem keepsTidy_atLast {action : String → Entries → Option Entries}
    (h : ∀ key, KeepsTidy (action key)) (path : List String) : KeepsTidy (atLast action path) := by
  intro entries changed hchange hentries
  rw [atLast] at hchange
  split at hchange
  · cases hchange
  · next key _ => exact (h key).changeAt false _ entries changed hchange hentries

/-- A statement whose value, where it gives one, is tidy. -/
def Statement.Tidy : Statement → Prop
  | .assign _ v => v.Tidy
  | _ => True

theorem tidy_build {opened : List String} {entries built : Entries} {statements : List Statement}
    (h : build opened entries statements = some built) (hentries : entries.Tidy)
    (hstatements : ∀ statement ∈ statements, statement.Tidy) : built.Tidy := by
  induction statements generalizing opened entries with
  | nil =>
    cases h
    exact hentries
  | cons statement rest ih =>
    obtain ⟨hfirst, hrest⟩ := List.forall_mem_cons.1 hstatements
    cases statement with
    | openTable path =>
      obtain ⟨changed, hchanged, h⟩ := Option.bind_eq_some_iff.1 h
      exact ih h (keepsTidy_atLast keepsTidy_openTable path _ _ hchanged hentries) hrest
    | openRow path =>
      obtain ⟨changed, hchanged, h⟩ := Option.bind_eq_some_iff.1 h
      exact ih h (keepsTidy_atLast keepsTidy_openRow path _ _ hchanged hentries) hrest
    | assign path v =>
      obtain ⟨changed, hchanged, h⟩ := Option.bind_eq_some_iff.1 h
      have hkeeps := (keepsTidy_assign path hfirst).changeAt false opened
      exact ih h (hkeeps _ _ hchanged hentries) hrest

theorem tidy_valueOf {statements : List Statement} {v : Config.Value}
    (h : valueOf? statements = some v) (hstatements : ∀ statement ∈ statements, statement.Tidy) :
    v.Tidy := by
  obtain ⟨entries, hbuild, rfl⟩ := Option.map_eq_some_iff.1 h
  exact tidy_build hbuild tidy_empty hstatements

/-! ### Texts -/

theorem yields_integer : Yields integer Value.Tidy := by
  refine yields_bind fun n => ?_
  split
  · exact yields_pure (tidy_integer n)
  · exact yields_failure

theorem yields_decimalReal : Yields decimalReal Value.Tidy := by
  refine yields_bind fun s => yields_bind fun whole => yields_bind fun fraction =>
    yields_bind fun e => ?_
  have hvalue : ∀ x : Binary64, Yields
      (if x = Binary64.infinity false then failure else pure (.real x)) Value.Tidy := by
    intro x
    split
    · exact yields_failure
    · exact yields_pure (tidy_real x)
  dsimp only
  split
  · exact yields_bind fun _ => hvalue _
  · exact hvalue _

theorem yields_specialReal : Yields specialReal Value.Tidy :=
  yields_bind fun _ => .orElse (yields_bind fun _ => yields_pure (tidy_real _))
    (yields_bind fun _ => yields_pure (tidy_real _))

theorem yields_momentValue : Yields momentValue Value.Tidy :=
  yields_bind fun m => yields_pure (tidy_singleton (tidy_text m.text))

theorem yields_assignment {value : Reader Config.Value} (h : Yields value Value.Tidy) :
    Yields (assignment value) fun pair => pair.2.Tidy :=
  yields_bind fun _ => yields_bind fun _ => yields_bind fun _ => yields_bind fun _ =>
    h.bind fun _ hv => yields_pure hv

theorem yields_inlineTable {value : Reader Config.Value} (h : Yields value Value.Tidy) :
    Yields (inlineTable value) Value.Tidy := by
  refine yields_bind fun _ => yields_bind fun closed => ?_
  split
  · exact yields_pure tidy_empty
  · refine yields_bind fun rounds => ?_
    refine ((yields_bind fun _ => yields_assignment h).separated inlineComma rounds).bind
      fun pairs hpairs => yields_bind fun _ => yields_bind fun _ => yields_lift fun v hv => ?_
    refine tidy_valueOf hv fun statement hstatement => ?_
    obtain ⟨pair, hpair, rfl⟩ := List.mem_map.1 hstatement
    exact hpairs pair hpair

theorem yields_valueWith {inner : Option (Reader Config.Value)}
    (h : ∀ item, inner = some item → Yields item Value.Tidy) :
    Yields (valueWith inner) Value.Tidy := by
  refine yields_bind fun c => ?_
  split
  · exact .map fun _ _ _ _ => tidy_text _
  · exact .map fun _ _ _ _ => tidy_text _
  · exact yields_bind fun _ => yields_bind fun _ => yields_bind fun _ =>
      .map fun _ _ _ _ => tidy_list _
  · exact (yields_lift fun item hitem => h item hitem).bind fun item hitem =>
      yields_bind fun _ => yields_inlineTable hitem
  · exact yields_bind fun _ => yields_pure (tidy_bool _)
  · exact yields_bind fun _ => yields_pure (tidy_bool _)
  · exact yields_momentValue.orElse
      (yields_decimalReal.orElse (yields_specialReal.orElse yields_integer))

theorem yields_value (depth : Nat) : Yields (value depth) Value.Tidy := by
  induction depth with
  | zero => exact yields_valueWith fun item hitem => by cases hitem
  | succ depth ih =>
    refine yields_valueWith fun item hitem => ?_
    cases hitem
    exact ih

theorem yields_line : Yields line fun statement? => ∀ statement ∈ statement?, statement.Tidy := by
  refine yields_bind fun _ => Yields.bind (Q := fun statement? => ∀ statement ∈ statement?,
    statement.Tidy) ?_ fun statement? hstatement => yields_bind fun _ => yields_bind fun _ =>
      yields_pure hstatement
  refine yields_bind fun c => ?_
  split
  any_goals exact yields_pure (by simp)
  · -- a header gives no value
    refine .map (.orElse ?_ ?_)
    · exact yields_bind fun _ => yields_bind fun _ => yields_bind fun _ => yields_bind fun _ =>
        yields_bind fun _ => yields_pure (by simp [Statement.Tidy])
    · exact yields_bind fun _ => yields_bind fun _ => yields_bind fun _ => yields_bind fun _ =>
        yields_bind fun _ => yields_pure (by simp [Statement.Tidy])
  · refine (yields_assignment (yields_value depthLimit)).bind fun pair hpair => ?_
    exact yields_pure (by simpa [Statement.Tidy] using hpair)

/-- **A TOML text gives every key a value once.** -/
theorem tidy_ofText {content : String} {v : Config.Value} (h : ofText? content = some v) :
    v.Tidy := by
  obtain ⟨statements, hread, hvalue⟩ := Option.bind_eq_some_iff.1 h
  refine tidy_valueOf hvalue ?_
  refine Yields.readAll (P := fun statements => ∀ statement ∈ statements, statement.Tidy)
    (yields_bind fun _ => yields_bind fun rounds => ?_) hread
  refine (yields_line.separated lineEnd rounds).bind fun lines hlines =>
    yields_bind fun _ => yields_pure fun statement hstatement => ?_
  obtain ⟨line, hline, hsome⟩ := List.mem_filterMap.1 hstatement
  exact hlines line hline statement hsome

end Toml

namespace Config

open Value

/-- A table that holds each key once, and so do the tables in it. -/
structure Layer (v : Value) : Prop where
  tidy : v.Tidy
  isTable : ∃ entries, v = .table entries

theorem layer_empty : Layer (.table []) := ⟨tidy_empty, _, rfl⟩

theorem Layer.merge {lower upper : Value} (hlower : Layer lower) (hupper : Layer upper) :
    Layer (lower.merge upper) := by
  refine ⟨hlower.tidy.merge hupper.tidy, ?_⟩
  obtain ⟨below, rfl⟩ := hlower.isTable
  obtain ⟨above, rfl⟩ := hupper.isTable
  exact ⟨_, by rw [Value.merge]⟩

/-- **What a file holds is a layer.** -/
theorem layer_fileLayer {files : FileTree} {path : String} {v : Value}
    (h : fileLayer files path = some v) : Layer v := by
  rw [fileLayer] at h
  split at h
  · rw [layerOfText?] at h
    split at h
    · next entries hentries =>
      obtain ⟨unwrapped, hunwrapped, rfl⟩ := Option.map_eq_some_iff.1 h
      exact ⟨(Toml.tidy_ofText hentries).unwrapEntries hunwrapped, _, rfl⟩
    · cases h
  · cases h
  · cases h
    exact layer_empty

namespace Variable

theorem tidy_ofPlain (s : List Char) : (ofPlain s).Tidy := by
  rw [ofPlain]
  split
  · exact tidy_real _
  · split
    · split
      · exact tidy_integer _
      · exact tidy_text _
    · exact tidy_text _

theorem Yields.items {α : Type} {item : Reader α} {P : α → Prop} (h : Yields item P)
    (close : Char) (rounds : Nat) : Yields (items item close rounds) fun as => ∀ a ∈ as, P a := by
  induction rounds with
  | zero => exact yields_failure
  | succ rounds ih =>
    rw [Variable.items]
    refine yields_bind fun closed => ?_
    split
    · exact yields_pure (by simp)
    · refine h.bind fun first hfirst => yields_bind fun more => ?_
      split
      · exact .map fun s others rest hread =>
          List.forall_mem_cons.2 ⟨hfirst, ih s others rest hread⟩
      · exact yields_bind fun _ => yields_pure (by simpa using hfirst)

theorem tidy_foldl_setEntry {es entries : List (String × Value)} (h : TidyEntries entries)
    (hes : ∀ e ∈ es, e.2.Tidy) :
    TidyEntries (es.foldl (fun es e => setEntry e.1 e.2 es) entries) := by
  induction es generalizing entries with
  | nil => exact h
  | cons e rest ih =>
    obtain ⟨he, hrest⟩ := List.forall_mem_cons.1 hes
    exact ih (h.setEntry e.1 he) hrest

theorem yields_entry {value : Reader Value} (h : Yields value Value.Tidy) :
    Yields (entry value) fun e => e.2.Tidy :=
  yields_bind fun _ => yields_bind fun _ => yields_bind fun _ => yields_bind fun _ =>
    yields_bind fun _ => h.bind fun _ hv => yields_bind fun _ => yields_pure hv

theorem yields_word {inner : Option (Reader Value)}
    (h : ∀ item, inner = some item → Yields item Value.Tidy) :
    Yields (valueWith.word inner) Value.Tidy := by
  refine yields_bind fun isTrue => ?_
  split
  · exact yields_pure (tidy_bool _)
  · refine yields_bind fun isFalse => ?_
    split
    · exact yields_pure (tidy_bool _)
    · refine yields_bind fun c => ?_
      split
      · refine (yields_lift fun item hitem => h item hitem).bind fun item hitem =>
          yields_bind fun _ => yields_bind fun rounds => ?_
        refine (Yields.items (yields_entry hitem) _ rounds).bind fun entries hentries => ?_
        exact yields_pure (tidy_foldl_setEntry tidy_empty hentries)
      · exact yields_bind fun _ => yields_bind fun _ => yields_bind fun _ =>
          .map fun _ _ _ _ => tidy_list _
      · exact .map fun _ _ _ _ => tidy_text _
      · exact yields_bind fun _ => yields_bind fun _ => yields_bind fun _ =>
          yields_pure (tidy_text _)
      · exact yields_bind fun _ => yields_pure (tidy_ofPlain _)

theorem yields_value (depth : Nat) : Yields (value depth) Value.Tidy := by
  induction depth with
  | zero =>
    refine yields_bind fun _ => (yields_word fun item hitem => ?_).bind fun v hv =>
      yields_bind fun _ => yields_pure hv
    cases hitem
  | succ depth ih =>
    refine yields_bind fun _ => (yields_word fun item hitem => ?_).bind fun v hv =>
      yields_bind fun _ => yields_pure hv
    cases hitem
    exact ih

theorem tidy_ofText (s : String) : (ofText s).Tidy := by
  rw [ofText]
  cases hread : readAll (value s.length) s.toList with
  | none => exact tidy_text s
  | some v => exact (yields_value s.length).readAll hread

/-- A key has at least one part. -/
theorem splitOn_ne_nil (separator : Char) (s : List Char) : splitOn separator s ≠ [] := by
  cases s with
  | nil => simp [splitOn]
  | cons c rest =>
    rw [splitOn]
    split
    · simp
    · split <;> simp

theorem key?_ne_nil {name : String} {path : List String} (h : key? name = some path) :
    path ≠ [] := by
  rw [key?] at h
  split at h
  · cases h
  · dsimp only at h
    split at h
    · cases h
    · cases h
      simpa using splitOn_ne_nil _ _

/-- **What an environment holds is a layer.** -/
theorem layer_layer (env : Environment) : Layer (layer env) := by
  rw [layer]
  refine List.foldlRecOn env.entries _ layer_empty fun v hv e _ => ?_
  cases hkey : key? e.1 with
  | none => exact hv
  | some path =>
    exact hv.merge ⟨(tidy_ofText e.2).nest path,
      exists_table_of_nest (key?_ne_nil hkey) (ofText e.2)⟩

end Variable

end Config

end BulkProvision
