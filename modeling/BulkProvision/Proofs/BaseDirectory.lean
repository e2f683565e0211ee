import BulkProvision.Catalog
import Mathlib.Data.List.Forall2

/-!
# The base directory is taken as it is written

A relative source lies below the base directory.  The source is expanded and the base directory is
not, so the two together are what an expanded base directory would give exactly when expansion
leaves the base directory as it is, up to a slash at its end (`resolve_expand_iff`).

For a base directory without references and without the home directory in front nothing is lost
(`expand_of_plain`).  One that expansion makes absolute is looked for below the working directory,
under its name with the `~` or the `$` in it (`isAbsolute_resolve`).
-/

namespace BulkProvision

namespace Path

open FileTree

/-! ### Joining -/

/-- A directory with the slash that separates it from what lies in it; none after an empty path. -/
def asDirectory (base : String) : String :=
  if base = "" ∨ base.toList.getLast? = some '/' then base else base ++ "/"

theorem join_eq (base path : String) : join base path = asDirectory base ++ path := by
  rw [join, asDirectory]
  split <;> rfl

theorem join_inj {base base' path : String} :
    join base path = join base' path ↔ asDirectory base = asDirectory base' := by
  rw [join_eq, join_eq, ← String.toList_inj, String.toList_append, String.toList_append,
    List.append_left_inj, String.toList_inj]

theorem isAbsolute_append {s : String} (h : s ≠ "") (t : String) :
    isAbsolute (s ++ t) = isAbsolute s := by
  have hne : s.toList ≠ [] := fun hnil => h (String.toList_inj.1 hnil)
  rw [isAbsolute, isAbsolute, String.toList_append, List.head?_append_of_ne_nil _ hne]

theorem isAbsolute_join {base : String} (h : base ≠ "") (path : String) :
    isAbsolute (join base path) = isAbsolute base := by
  rw [join]
  split
  · exact isAbsolute_append h path
  · rw [String.append_assoc]
    exact isAbsolute_append h _

/-- **When the base directory may be left as it is written.** -/
theorem resolve_expand_iff (env : Environment) (base path : String) :
    resolve env base path = resolve env (expand env base) path ↔
      isAbsolute (expand env path) = true ∨
        asDirectory (expand env base) = asDirectory base := by
  rw [resolve, resolve]
  cases habsolute : isAbsolute (expand env path) with
  | true => simp
  | false => simpa using join_inj.trans eq_comm

/-! ### Expanding -/

theorem pieces_cons {c : Char} (h : c ≠ '$') (s : List Char) :
    pieces (c :: s) = .text [c] :: pieces s := by
  rw [pieces, if_neg h]

/-- What is no reference stays. -/
theorem substitute_cons (env : Environment) {c : Char} (h : c ≠ '$') (s : List Char) :
    substitute env (c :: s) = (substitute env s).map (c :: ·) := by
  rw [substitute, substitute, pieces_cons h, List.mapM_cons]
  cases (pieces s).mapM (Piece.value? env) <;> rfl

theorem substitute_of_plain (env : Environment) {s : List Char} (h : '$' ∉ s) :
    substitute env s = some s := by
  induction s with
  | nil => rw [substitute, pieces]; rfl
  | cons c rest ih =>
    rw [List.mem_cons, not_or] at h
    rw [substitute_cons env (Ne.symm h.1), ih h.2, Option.map_some]

theorem expandHome_of_head? (env : Environment) {s : List Char} (h : s.head? ≠ some '~') :
    expandHome env s = s := by
  cases s with
  | nil => rfl
  | cons c rest =>
    rw [expandHome]
    intro _ heq
    exact h (congrArg List.head? heq)

/-- **A path written out is its own expansion.** -/
theorem expand_of_plain (env : Environment) {path : String} (hdollar : '$' ∉ path.toList)
    (htilde : path.toList.head? ≠ some '~') : expand env path = path := by
  rw [expand, substitute_of_plain env hdollar, Option.getD_some, expandHome_of_head? env htilde,
    String.ofList_toList]

/-- Whether a path starts with the home directory. -/
def startsAtHome (path : String) : Prop :=
  ∃ rest, path.toList = '~' :: rest ∧ (rest = [] ∨ rest.head? = some '/')

/-- Whatever references follow it, the home directory is put in front. -/
theorem expand_of_startsAtHome {env : Environment} {path home : String} (h : startsAtHome path)
    (hhome : env.get? "HOME" = some home) (hne : home ≠ "") :
    ∃ rest, expand env path = home ++ rest := by
  obtain ⟨rest, hpath, hrest⟩ := h
  -- substitution leaves the `~` and what makes it the home directory
  have hsubstitute : ∃ rest', (substitute env path.toList).getD path.toList = '~' :: rest' ∧
      (rest' = [] ∨ rest'.head? = some '/') := by
    rw [hpath, substitute_cons env (by decide)]
    cases rest with
    | nil => exact ⟨[], by rw [substitute_of_plain env (by simp)]; rfl, .inl rfl⟩
    | cons c rest =>
      obtain rfl : c = '/' := by simpa using hrest
      rw [substitute_cons env (by decide)]
      cases substitute env rest with
      | none => exact ⟨'/' :: rest, rfl, .inr rfl⟩
      | some replaced => exact ⟨'/' :: replaced, rfl, .inr rfl⟩
  obtain ⟨rest', heq, hrest'⟩ := hsubstitute
  refine ⟨String.ofList rest', ?_⟩
  rw [expand, heq, expandHome, if_pos hrest', hhome]
  simp only [if_neg hne]
  rw [← String.toList_inj]
  simp

/-- **A base directory that is absolute only after expansion** is looked for in the working
directory. -/
theorem isAbsolute_resolve {env : Environment} {base path : String}
    (hbase : isAbsolute base = false) (hexpanded : isAbsolute (expand env base) = true)
    (hpath : isAbsolute (expand env path) = false) :
    isAbsolute (resolve env base path) = false ∧
      isAbsolute (resolve env (expand env base) path) = true := by
  have hne : base ≠ "" := by
    rintro rfl
    rw [expand_of_plain env (by simp) (by simp)] at hexpanded
    exact absurd hexpanded (by decide)
  have hne' : expand env base ≠ "" := by
    intro heq
    rw [heq] at hexpanded
    exact absurd hexpanded (by decide)
  simp only [resolve, hpath]
  exact ⟨(isAbsolute_join hne _).trans hbase, (isAbsolute_join hne' _).trans hexpanded⟩

end Path

namespace Catalog

open BulkProvision.Path FileTree

/-- Where the source of a configured dataset is looked for. -/
structure Placed (env : Environment) (base : String) (entry : DatasetEntry) (dataset : Dataset) :
    Prop where
  name : dataset.name = entry.name
  /-- The expanded source, below the base directory as it is written. -/
  sourcePath : dataset.sourcePath =
    if isAbsolute (expand env entry.source) then expand env entry.source
    else join base (expand env entry.source)
  /-- When the source is looked for below the expanded base directory. -/
  expanded_iff : dataset.sourcePath = resolve env (expand env base) entry.source ↔
    isAbsolute (expand env entry.source) = true ∨ asDirectory (expand env base) = asDirectory base
  /-- A base directory that is written out is as good as the expanded one. -/
  writtenOut : '$' ∉ base.toList → base.toList.head? ≠ some '~' →
    dataset.sourcePath = resolve env (expand env base) entry.source
  /-- The source is looked for elsewhere where only expansion makes the base directory absolute. -/
  astray : isAbsolute base = false → isAbsolute (expand env base) = true →
    isAbsolute (expand env entry.source) = false →
    isAbsolute dataset.sourcePath = false ∧
      isAbsolute (resolve env (expand env base) entry.source) = true
  /-- Only expansion makes a base directory in the home directory absolute. -/
  home : ∀ home, startsAtHome base → env.get? "HOME" = some home → isAbsolute home = true →
    isAbsolute base = false ∧ isAbsolute (expand env base) = true

/-- **Where sources are looked for**: one dataset for each entry, in order, each below the base
directory as it is written. -/
theorem placed_ofSettings (env : Environment) (settings : Settings) :
    List.Forall₂ (Placed env settings.baseDir) settings.datasets (ofSettings env settings) := by
  rw [ofSettings, List.forall₂_map_right_iff, List.forall₂_same]
  intro entry _
  refine ⟨rfl, rfl, resolve_expand_iff env _ _, fun hdollar htilde => ?_,
    fun hbase hexpanded hsource => isAbsolute_resolve hbase hexpanded hsource,
    fun home hstart hhome habsolute => ?_⟩
  · rw [expand_of_plain env hdollar htilde]
  · have hne : home ≠ "" := by
      rintro rfl
      exact absurd habsolute (by decide)
    obtain ⟨rest, hexpand⟩ := expand_of_startsAtHome hstart hhome hne
    rw [hexpand, isAbsolute_append hne, habsolute]
    obtain ⟨rest', hbase, -⟩ := hstart
    exact ⟨by rw [isAbsolute, hbase]; simp, rfl⟩

/-- A base directory in the home directory. -/
def homeSettings : Settings :=
  { Settings.standard with
    baseDir := "~/weather", datasets := [⟨"stations", "stations.json", ["date"], "station_id"⟩] }

/-- The source is looked for below a directory with the name `~`, in the working directory. -/
theorem placed_ofSettings_home :
    let env : Environment := NameMap.ofList [("HOME", "/home/tester")]
    resolve env (expand env homeSettings.baseDir) "stations.json" =
        "/home/tester/weather/stations.json" ∧
      ∀ dataset ∈ ofSettings env homeSettings,
        dataset.sourcePath = "~/weather/stations.json" ∧ isAbsolute dataset.sourcePath = false := by
  intro env
  have hsource : expand env "stations.json" = "stations.json" :=
    expand_of_plain env (by decide) (by decide)
  have hexpand : expand env homeSettings.baseDir = "/home/tester/weather" := by decide +kernel
  refine ⟨by rw [hexpand, resolve, hsource]; decide, fun dataset hdataset => ?_⟩
  obtain ⟨hplaced, -⟩ := List.forall₂_cons.1 (placed_ofSettings env homeSettings)
  obtain rfl := List.mem_singleton.1 hdataset
  obtain ⟨hbase, hexpanded⟩ := hplaced.home "/home/tester"
    ⟨['/', 'w', 'e', 'a', 't', 'h', 'e', 'r'], by decide, .inr rfl⟩ (by decide +kernel) (by decide)
  have hrelative : isAbsolute (expand env "stations.json") = false := by
    rw [hsource]
    decide
  refine ⟨?_, (hplaced.astray hbase hexpanded hrelative).1⟩
  rw [hplaced.sourcePath, hsource]
  decide

end Catalog

end BulkProvision
