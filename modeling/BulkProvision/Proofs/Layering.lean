import BulkProvision.Proofs.Stacking
import BulkProvision.Settings.Decode

/-!
# Which layer a setting comes from

Settings are read out of the merged layers of a configuration.  For every single setting and for
each of the two lists this comes to the same as asking the layers one by one, from the highest down,
and taking the first answer (`layered_of_ofConfig`): a setting is never a table, so of the values
under its key only the highest is looked at (`Item.value_eq`).  So a change of one key in one layer
reaches no other setting.
-/

namespace BulkProvision

namespace Settings

open Config Config.Value

/-! ### Single settings -/

/-- A setting that is one value in one of the tables. -/
inductive Item where
  | uri
  | database
  | appName
  | connectTimeout
  | serverSelectionTimeout
  | adminUser
  | adminPassword
  | adminRole
  | authDatabase
  | baseDir
  deriving DecidableEq

namespace Item

/-- The table a setting stands in. -/
def table : Item → String
  | uri | database | appName | connectTimeout | serverSelectionTimeout => "store"
  | adminUser | adminPassword | adminRole | authDatabase => "bootstrap"
  | baseDir => "data"

/-- The key of a setting in its table. -/
def key : Item → String
  | uri => "uri"
  | database => "database"
  | appName => "app_name"
  | connectTimeout => "connect_timeout_ms"
  | serverSelectionTimeout => "server_selection_timeout_ms"
  | adminUser => "admin_user"
  | adminPassword => "admin_password"
  | adminRole => "admin_role"
  | authDatabase => "auth_database"
  | baseDir => "base_dir"

/-- What a setting is, as a value of a configuration. -/
def value (s : Settings) : Item → Value
  | uri => .text s.store.uri
  | database => .text s.store.database
  | appName => .text s.store.appName
  | connectTimeout => .integer s.store.connectTimeoutMs
  | serverSelectionTimeout => .integer s.store.serverSelectionTimeoutMs
  | adminUser => .text s.bootstrap.user
  | adminPassword => .text s.bootstrap.password
  | adminRole => .text s.bootstrap.role
  | authDatabase => .text s.bootstrap.authDatabase
  | baseDir => .text s.baseDir

theorem table_mem (item : Item) : item.table ∈ settingTables := by
  cases item <;> decide

theorem isTable_value (s : Settings) (item : Item) : (item.value s).isTable = false := by
  cases item <;> rfl

end Item

theorem getD_of_orDefault_asText {o : Option Value} {standard s : String}
    (h : orDefault asText? standard o = some s) : Value.text s = o.getD (.text standard) := by
  cases o with
  | none => cases h; rfl
  | some v => cases v <;> cases h; rfl

theorem getD_of_orDefault_asNat {o : Option Value} {standard n : Nat}
    (h : orDefault asNat? standard o = some n) : Value.integer n = o.getD (.integer standard) := by
  cases o with
  | none => cases h; rfl
  | some v =>
    cases v with
    | integer m =>
      rw [orDefault, asNat?] at h
      split at h
      · next hm =>
        cases h
        rw [Option.getD_some, Int.toNat_of_nonneg hm.1]
      · cases h
    | _ => cases h

theorem fields?_of_layer {v : Value} (h : Layer v) (count : Nat) :
    v.fields? true count = some fun _ name => v.get? name := by
  obtain ⟨entries, rfl⟩ := h.isTable
  rfl

/-- The parts that settings are read from, one by one. -/
structure ReadFrom (config : Value) (s : Settings) : Prop where
  store : orDefault (storeOf? true) .standard (config.get? "store") = some s.store
  bootstrap : orDefault (bootstrapOf? true) standardCredential (config.get? "bootstrap") =
    some s.bootstrap
  baseDir : orDefault (baseDirOf? true) standardBaseDir (config.get? "data") = some s.baseDir
  datasets : orDefault (asList? (datasetOf? true)) standardDatasets (config.get? "datasets") =
    some s.datasets
  coercion : orDefault (asList? (ruleOf? true)) standardCoercion (config.get? "coercion") =
    some s.coercion

theorem readFrom_of_ofValue {config : Value} (hconfig : Layer config) {s : Settings}
    (h : ofValue? true config = some s) : ReadFrom config s := by
  rw [ofValue?, fields?_of_layer hconfig] at h
  obtain ⟨_, ⟨⟩, h⟩ := Option.bind_eq_some_iff.1 h
  obtain ⟨store, hstore, h⟩ := Option.bind_eq_some_iff.1 h
  obtain ⟨bootstrap, hbootstrap, h⟩ := Option.bind_eq_some_iff.1 h
  obtain ⟨baseDir, hbaseDir, h⟩ := Option.bind_eq_some_iff.1 h
  obtain ⟨datasets, hdatasets, h⟩ := Option.bind_eq_some_iff.1 h
  obtain ⟨coercion, hcoercion, h⟩ := Option.bind_eq_some_iff.1 h
  cases h
  exact ⟨hstore, hbootstrap, hbaseDir, hdatasets, hcoercion⟩

theorem value_of_storeOf {v : Value} (hv : Layer v) {s : Settings}
    (h : storeOf? true v = some s.store) {item : Item} (hitem : item.table = "store") :
    item.value s = (v.get? item.key).getD (item.value standard) := by
  rw [storeOf?, fields?_of_layer hv] at h
  obtain ⟨_, ⟨⟩, h⟩ := Option.bind_eq_some_iff.1 h
  obtain ⟨uri, huri, h⟩ := Option.bind_eq_some_iff.1 h
  obtain ⟨database, hdatabase, h⟩ := Option.bind_eq_some_iff.1 h
  obtain ⟨appName, happName, h⟩ := Option.bind_eq_some_iff.1 h
  obtain ⟨connect, hconnect, h⟩ := Option.bind_eq_some_iff.1 h
  obtain ⟨selection, hselection, h⟩ := Option.bind_eq_some_iff.1 h
  have hstore := Option.some.inj h
  cases item with
  | uri =>
    rw [Item.value, ← hstore]
    exact getD_of_orDefault_asText huri
  | database =>
    rw [Item.value, ← hstore]
    exact getD_of_orDefault_asText hdatabase
  | appName =>
    rw [Item.value, ← hstore]
    exact getD_of_orDefault_asText happName
  | connectTimeout =>
    rw [Item.value, ← hstore]
    exact getD_of_orDefault_asNat hconnect
  | serverSelectionTimeout =>
    rw [Item.value, ← hstore]
    exact getD_of_orDefault_asNat hselection
  | _ => exact absurd hitem (by decide)

theorem value_of_bootstrapOf {v : Value} (hv : Layer v) {s : Settings}
    (h : bootstrapOf? true v = some s.bootstrap) {item : Item} (hitem : item.table = "bootstrap") :
    item.value s = (v.get? item.key).getD (item.value standard) := by
  rw [bootstrapOf?, fields?_of_layer hv] at h
  obtain ⟨_, ⟨⟩, h⟩ := Option.bind_eq_some_iff.1 h
  obtain ⟨user, huser, h⟩ := Option.bind_eq_some_iff.1 h
  obtain ⟨password, hpassword, h⟩ := Option.bind_eq_some_iff.1 h
  obtain ⟨role, hrole, h⟩ := Option.bind_eq_some_iff.1 h
  obtain ⟨database, hdatabase, h⟩ := Option.bind_eq_some_iff.1 h
  have hbootstrap := Option.some.inj h
  cases item with
  | adminUser =>
    rw [Item.value, ← hbootstrap]
    exact getD_of_orDefault_asText huser
  | adminPassword =>
    rw [Item.value, ← hbootstrap]
    exact getD_of_orDefault_asText hpassword
  | adminRole =>
    rw [Item.value, ← hbootstrap]
    exact getD_of_orDefault_asText hrole
  | authDatabase =>
    rw [Item.value, ← hbootstrap]
    exact getD_of_orDefault_asText hdatabase
  | _ => exact absurd hitem (by decide)

theorem value_of_baseDirOf {v : Value} (hv : Layer v) {s : Settings}
    (h : baseDirOf? true v = some s.baseDir) :
    Item.baseDir.value s = (v.get? Item.baseDir.key).getD (Item.baseDir.value standard) := by
  rw [baseDirOf?, fields?_of_layer hv] at h
  exact getD_of_orDefault_asText h

/-- **A single setting is what the configuration has at its path**, or the standard one. -/
theorem Item.value_eq {config : Value} {s : Settings} (h : ReadFrom config s)
    (htables : ∀ table ∈ settingTables, ∀ v ∈ config.get? table, Layer v) (item : Item) :
    item.value s = (config.follow? [item.table, item.key]).getD (item.value standard) := by
  have hlayer := htables item.table item.table_mem
  obtain ⟨hstore, hbootstrap, hbaseDir, -, -⟩ := h
  rw [follow?_pair]
  -- one case for each of the tables: it is absent and all of it standard, or it is read
  have hcases : item.table = "store" ∨ item.table = "bootstrap" ∨ item = .baseDir := by
    cases item <;> decide
  rcases hcases with htable | htable | rfl
  · rw [htable] at hlayer ⊢
    cases hget : config.get? "store" with
    | none =>
      rw [hget] at hstore
      have hstandard := Option.some.inj hstore
      cases item <;> first | exact absurd htable (by decide) | (rw [value, ← hstandard]; rfl)
    | some v =>
      rw [hget] at hstore
      exact value_of_storeOf (hlayer v hget) hstore htable
  · rw [htable] at hlayer ⊢
    cases hget : config.get? "bootstrap" with
    | none =>
      rw [hget] at hbootstrap
      have hstandard := Option.some.inj hbootstrap
      cases item <;> first | exact absurd htable (by decide) | (rw [value, ← hstandard]; rfl)
    | some v =>
      rw [hget] at hbootstrap
      exact value_of_bootstrapOf (hlayer v hget) hbootstrap htable
  · cases hget : config.get? "data" with
    | none =>
      rw [hget] at hbaseDir
      rw [show Item.baseDir.table = "data" from rfl, hget, value, ← Option.some.inj hbaseDir]
      rfl
    | some v =>
      rw [hget] at hbaseDir
      rw [show Item.baseDir.table = "data" from rfl, hget]
      exact value_of_baseDirOf (hlayer v hget) hbaseDir

/-! ### Settings from layers -/

/-- A list of settings that is read whole from one value, or is the standard list. -/
def ReadWhole {α : Type} (read : Value → Option α) (standard : List α) (found : Option Value)
    (result : List α) : Prop :=
  match found with
  | none => result = standard
  | some v =>
    ∃ items, v = .list items ∧ List.Forall₂ (fun item a => read item = some a) items result

theorem readWhole_topmost {α : Type} {read : Value → Option α} {standard result : List α}
    {values : List (Option Value)}
    (h : orDefault (asList? read) standard (stacked values) = some result) :
    ReadWhole read standard (topmost values) result := by
  rw [topmost_eq_stacked]
  · cases hstacked : stacked values with
    | none =>
      rw [hstacked] at h
      exact (Option.some.inj h).symm
    | some v =>
      rw [hstacked] at h
      cases v with
      | list items => exact ⟨items, rfl, forall₂_of_mapM h⟩
      | _ => cases h
  · intro v hv
    rw [hv] at h
    cases v with
    | table entries => cases h
    | _ => rfl

/-- The environments that have a file of their own. -/
def environmentFiles : List (String × String) :=
  [("dev", "config.dev.toml"), ("development", "config.dev.toml"), ("prod", "config.prod.toml"),
    ("production", "config.prod.toml"), ("test", "config.test.toml"),
    ("testing", "config.test.toml")]

/-- Every setting is the one that the highest layer has which has it at all. -/
structure FromLayers (layers : List Value) (s : Settings) : Prop where
  items : ∀ item : Item,
    item.value s = (highest? layers [item.table, item.key]).getD (item.value standard)
  datasets : ReadWhole (datasetOf? true) standardDatasets (highest? layers ["datasets"]) s.datasets
  coercion : ReadWhole (ruleOf? true) standardCoercion (highest? layers ["coercion"]) s.coercion

theorem ofValue?_of_ofConfig {config : Option Value} {s : Settings}
    (h : ofConfig config = .ok s) : ∃ v, config = some v ∧ ofValue? true v = some s := by
  cases config with
  | none => cases h
  | some v =>
    rw [ofConfig, Option.bind_some] at h
    cases hread : ofValue? true v with
    | none =>
      rw [hread] at h
      cases h
    | some settings =>
      rw [hread] at h
      dsimp only at h
      split at h
      · cases h
        exact ⟨v, rfl, hread⟩
      · cases h

theorem fromLayers_of_ofConfig {files : FileTree} {env : Environment} {dir name : String}
    {layers : List Value} {s : Settings} (hlayers : layers? files env dir name = some layers)
    (htables : TablesHold layers) (h : ofConfig (load files env dir name) = .ok s) :
    FromLayers layers s := by
  obtain ⟨config, hconfig, hread⟩ := ofValue?_of_ofConfig h
  rw [load_eq, hlayers, Option.map_some] at hconfig
  obtain rfl := Option.some.inj hconfig
  have hlayer := layer_of_mem_layers hlayers
  have hfrom := readFrom_of_ofValue (foldl_merge_eq hlayer).1 hread
  refine ⟨fun item => ?_, ?_, ?_⟩
  · have hitem := Item.value_eq hfrom (fun table htable =>
      (follow?_foldl_merge hlayer htables htable "").2) item
    rw [(follow?_foldl_merge hlayer htables item.table_mem item.key).1] at hitem
    rw [highest?, topmost_eq_stacked, hitem]
    intro v hv
    rw [hv, Option.getD_some] at hitem
    rw [← hitem]
    exact item.isTable_value s
  · have hdatasets := hfrom.datasets
    rw [(foldl_merge_eq hlayer).2] at hdatasets
    simp only [highest?, follow?_singleton]
    exact readWhole_topmost hdatasets
  · have hcoercion := hfrom.coercion
    rw [(foldl_merge_eq hlayer).2] at hcoercion
    simp only [highest?, follow?_singleton]
    exact readWhole_topmost hcoercion

/-! ### The layers that count -/

theorem environmentFile?_eq_lookup (name : String) :
    environmentFile? name = environmentFiles.lookup name := by
  rw [environmentFile?]
  by_cases hdev : name = "dev"
  · subst hdev; rfl
  by_cases hdevelopment : name = "development"
  · subst hdevelopment; rfl
  by_cases hprod : name = "prod"
  · subst hprod; rfl
  by_cases hproduction : name = "production"
  · subst hproduction; rfl
  by_cases htest : name = "test"
  · subst htest; rfl
  by_cases htesting : name = "testing"
  · subst htesting; rfl
  simp [environmentFiles, List.lookup_cons, hdev, hdevelopment, hprod, hproduction, htest, htesting,
    beq_eq_false_iff_ne.2]

/-- What the layers are, lowest first: the file of every environment, the file of this one if it has
one, and the variables. -/
def Stacks (files : FileTree) (env : Environment) (dir name : String) (layers : List Value) :
    Prop :=
  ∃ base, fileLayer files (Path.join dir "config.toml") = some base ∧
    match environmentFiles.lookup name with
    | none => layers = [base, Variable.layer env]
    | some file =>
      ∃ own, fileLayer files (Path.join dir file) = some own ∧
        layers = [base, own, Variable.layer env]

theorem stacks_of_layers {files : FileTree} {env : Environment} {dir name : String}
    {layers : List Value} (h : layers? files env dir name = some layers) :
    Stacks files env dir name layers := by
  obtain ⟨below, hbelow, rfl⟩ := Option.map_eq_some_iff.1 h
  have hread := forall₂_of_mapM hbelow
  rw [layerFiles, environmentFile?_eq_lookup] at hread
  rw [Stacks]
  cases hname : environmentFiles.lookup name with
  | none =>
    rw [hname] at hread
    obtain - | ⟨hbase, ⟨⟩⟩ := hread
    exact ⟨_, hbase, rfl⟩
  | some file =>
    rw [hname] at hread
    obtain - | ⟨hbase, - | ⟨hown, ⟨⟩⟩⟩ := hread
    exact ⟨_, hbase, _, hown, rfl⟩

/-- Without a file of the environment, one file decides. -/
theorem load_of_lookup_none {files others : FileTree} {dir name : String}
    (hname : environmentFiles.lookup name = none)
    (h : others.find? (Path.join dir "config.toml") = files.find? (Path.join dir "config.toml"))
    (env : Environment) : load others env dir name = load files env dir name := by
  have hfile : fileLayer others (Path.join dir "config.toml") =
      fileLayer files (Path.join dir "config.toml") := by
    rw [fileLayer, fileLayer, h]
  rw [load, load, layerFiles, environmentFile?_eq_lookup, hname]
  simp only [Option.map_none, Option.toList_none, List.mapM_cons, List.mapM_nil, hfile]

/-! ### Changing one key -/

/-- Two lists of layers that differ in one layer, and there at most in one key of one table. -/
def ChangedAt (table key : String) (layers changed : List Value) : Prop :=
  ∃ before old new after, layers = before ++ old :: after ∧ changed = before ++ new :: after ∧
    (∀ k, k ≠ table → new.get? k = old.get? k) ∧
    ∀ k, k ≠ key → new.follow? [table, k] = old.follow? [table, k]

theorem ChangedAt.highest? {table key : String} {layers changed : List Value} {path : List String}
    (h : ChangedAt table key layers changed)
    (hpath : path.head? ≠ some table ∨ ∃ k, k ≠ key ∧ path = [table, k]) (hne : path ≠ []) :
    Config.highest? changed path = Config.highest? layers path := by
  obtain ⟨before, old, new, after, rfl, rfl, hothers, htable⟩ := h
  have hsame : new.follow? path = old.follow? path := by
    rcases hpath with hhead | ⟨k, hk, rfl⟩
    · cases path with
      | nil => exact absurd rfl hne
      | cons first rest =>
        have hfirst : first ≠ table := fun heq => hhead (congrArg some heq)
        simp only [follow?, hothers first hfirst]
    · exact htable k hk
  simp only [Config.highest?, List.map_append, List.map_cons, hsame]

theorem ReadWhole.unique {α : Type} {read : Value → Option α} {standard a b : List α}
    {found : Option Value} (ha : ReadWhole read standard found a)
    (hb : ReadWhole read standard found b) : b = a := by
  cases found with
  | none => exact Eq.trans hb (Eq.symm ha)
  | some v =>
    obtain ⟨items, rfl, hitems⟩ := ha
    obtain ⟨items', hlist, hitems'⟩ := hb
    cases hlist
    refine List.right_unique_forall₂' (fun item x y hx hy => ?_) hitems' hitems
    rw [hx] at hy
    exact Option.some.inj hy

/-- Where every layer but one key of one layer is the same, so is every other setting. -/
theorem FromLayers.of_changedAt {table key : String} {layers changed : List Value}
    {s s' : Settings} (h : FromLayers layers s) (h' : FromLayers changed s')
    (hchanged : ChangedAt table key layers changed) (htable : table ∈ settingTables) :
    (∀ item : Item, (item.table, item.key) ≠ (table, key) → item.value s' = item.value s) ∧
      s'.datasets = s.datasets ∧ s'.coercion = s.coercion := by
  have hlist : ∀ name, name ∉ settingTables →
      highest? changed [name] = highest? layers [name] := fun name hname =>
    hchanged.highest? (.inl fun heq => hname (Option.some.inj heq ▸ htable)) (List.cons_ne_nil _ _)
  refine ⟨fun item hitem => ?_, ?_, ?_⟩
  · have hsame : highest? changed [item.table, item.key] =
        highest? layers [item.table, item.key] := by
      refine hchanged.highest? ?_ (List.cons_ne_nil _ _)
      by_cases heq : item.table = table
      · refine .inr ⟨item.key, fun hkey => hitem (Prod.ext heq hkey), by rw [heq]⟩
      · exact .inl fun hhead => heq (Option.some.inj hhead)
    rw [h'.items, h.items, hsame]
  · have hdatasets := h'.datasets
    rw [hlist "datasets" (by decide)] at hdatasets
    exact h.datasets.unique hdatasets
  · have hcoercion := h'.coercion
    rw [hlist "coercion" (by decide)] at hcoercion
    exact h.coercion.unique hcoercion

/-- **Where settings come from.**  Accepted settings are read from the layers of the configuration,
each from the highest layer that has it, and the two lists whole.  An environment without a name of
its own among the six has one file only.  And between two accepted configurations that differ in one
key of one layer, no other setting differs. -/
theorem layered_of_ofConfig {files : FileTree} {env : Environment} {dir name : String}
    {s : Settings} (h : ofConfig (load files env dir name) = .ok s)
    (htables : ∀ layers ∈ layers? files env dir name, TablesHold layers) :
    ∃ layers, Stacks files env dir name layers ∧ FromLayers layers s ∧
      (environmentFiles.lookup name = none → ∀ others : FileTree,
        others.find? (Path.join dir "config.toml") = files.find? (Path.join dir "config.toml") →
        ofConfig (load others env dir name) = .ok s) ∧
      ∀ (files' : FileTree) (env' : Environment) (s' : Settings),
        ofConfig (load files' env' dir name) = .ok s' →
        ∀ layers' ∈ layers? files' env' dir name, TablesHold layers' →
        ∀ table ∈ settingTables, ∀ key, ChangedAt table key layers layers' →
        (∀ item : Item, (item.table, item.key) ≠ (table, key) → item.value s' = item.value s) ∧
          s'.datasets = s.datasets ∧ s'.coercion = s.coercion := by
  have hlayers : ∃ layers, layers? files env dir name = some layers := by
    obtain ⟨config, hconfig, -⟩ := ofValue?_of_ofConfig h
    rw [load_eq] at hconfig
    obtain ⟨layers, hlayers, -⟩ := Option.map_eq_some_iff.1 hconfig
    exact ⟨layers, hlayers⟩
  obtain ⟨layers, hlayers⟩ := hlayers
  have hfrom := fromLayers_of_ofConfig hlayers (htables layers hlayers) h
  refine ⟨layers, stacks_of_layers hlayers, hfrom, ?_, ?_⟩
  · intro hname others hothers
    rw [load_of_lookup_none hname hothers, h]
  · intro files' env' s' h' layers' hlayers' htables' table htable key hchanged
    exact hfrom.of_changedAt (fromLayers_of_ofConfig hlayers' htables' h') hchanged htable

/-- A base file, and one of the test environment that overrides a key of it. -/
def layeredFiles : FileTree :=
  ⟨[(["config.toml"], .text <|
      "[store]\ndatabase = \"baseDB\"\napp_name = \"base\"\n[data]\nbase_dir = \"/srv/data\"\n"),
    (["config.test.toml"], .text "[store]\ndatabase = \"testDB\"\n")]⟩

/-- A variable that overrides another key of the same table. -/
def layeredEnvironment : Environment := NameMap.ofList [("APP_STORE__APP_NAME", "nightly")]

/-- What they come to: one key from each of the three layers, and the rest standard. -/
def layeredSettings : Settings :=
  { standard with
    store := { StoreSettings.standard with database := "testDB", appName := "nightly" }
    baseDir := "/srv/data" }

/-- The variable adds a key to the highest layer, so without it that one setting is another. -/
theorem layered_of_ofConfig_sample :
    ofConfig (load layeredFiles layeredEnvironment "." "test") = .ok layeredSettings ∧
      (∃ layers, Stacks layeredFiles layeredEnvironment "." "test" layers ∧
        FromLayers layers layeredSettings) ∧
      ∀ s, ofConfig (load layeredFiles .empty "." "test") = .ok s →
        ∀ item, item ≠ Item.appName → item.value s = item.value layeredSettings := by
  have hok : ofConfig (load layeredFiles layeredEnvironment "." "test") = .ok layeredSettings := by
    decide +kernel
  have htables : ∀ layers ∈ layers? layeredFiles layeredEnvironment "." "test",
      TablesHold layers := by
    decide +kernel
  obtain ⟨layers, hstacks, hfrom, -, hisolated⟩ := layered_of_ofConfig hok htables
  refine ⟨hok, ⟨layers, hstacks, hfrom⟩, fun s hs item hitem => ?_⟩
  have hplain : ∀ layers ∈ layers? layeredFiles .empty "." "test", TablesHold layers := by
    decide +kernel
  obtain ⟨layers', hlayers'⟩ : ∃ layers', layers? layeredFiles .empty "." "test" = some layers' :=
    Option.isSome_iff_exists.1 (by decide +kernel)
  have hchanged : ChangedAt "store" "app_name" layers layers' := by
    have hentries : layeredEnvironment.entries = [("APP_STORE__APP_NAME", "nightly")] := by
      decide +kernel
    have hkey : Variable.key? "APP_STORE__APP_NAME" = some ["store", "app_name"] := by
      decide +kernel
    have hvariables : Variable.layer layeredEnvironment =
        .table [("store", .table [("app_name", Variable.ofText "nightly")])] := by
      rw [Variable.layer, hentries, List.foldl_cons, hkey]
      rfl
    obtain ⟨base, hbase, own, hown, rfl⟩ := hstacks
    obtain ⟨base', hbase', own', hown', rfl⟩ := stacks_of_layers hlayers'
    obtain rfl := Option.some.inj (hbase'.symm.trans hbase)
    obtain rfl := Option.some.inj (hown'.symm.trans hown)
    refine ⟨[base', own'], _, _, [], rfl, rfl, fun k hk => ?_, fun k hk => ?_⟩
    · rw [hvariables]
      simp [Variable.layer, NameMap.empty, Value.get?, findEntry, Ne.symm hk]
    · rw [hvariables]
      simp [Variable.layer, NameMap.empty, follow?, Value.get?, findEntry, Ne.symm hk]
  refine (hisolated layeredFiles .empty s hs layers' hlayers' (hplain layers' hlayers') "store"
    (by decide) "app_name" hchanged).1 item fun heq => hitem ?_
  have hkey : item.key = "app_name" := congrArg Prod.snd heq
  cases item <;> first | rfl | exact absurd hkey (by decide)

end Settings

end BulkProvision
