import BulkProvision.CommandLine
import BulkProvision.Proofs.Acceptance
import BulkProvision.Proofs.Retention
import BulkProvision.Proofs.Verification

/-!
# Dry runs

A dry run works on a fresh store in memory, which its phases share.  A phase fails over such a store
for one reason only:

* bootstrapping for none (`bootstrapPhase_apply`),
* provisioning because a source does not load (`isOk_provisionPhase`),
* verifying because nothing was provisioned (`verifyPhase_fresh`); after a provisioning with success
  it finds nothing wrong (`verifyPhase_provisioned`).

So the exit code is decided by the configuration, the first word among the arguments that is no
flag, and the sources (`exitCode_of_dryRun`).
-/

namespace BulkProvision

namespace Settings

/-- Settings that are used name every dataset once. -/
theorem nodup_of_ofConfig {config : Option Config.Value} {settings : Settings}
    (h : ofConfig config = .ok settings) : (settings.datasets.map DatasetEntry.name).Nodup := by
  rw [ofConfig] at h
  split at h
  · cases h
  · split at h
    · next settings' hcheck =>
      cases h
      exact (check_eq_ok_iff.1 hcheck).distinct
    · cases h

end Settings

namespace Provision

open Store

theorem Report.isSuccess_iff {report : Report} :
    report.isSuccess = true ↔ ∀ entry ∈ report.datasets, entry.error = none := by
  rw [isSuccess, failed, List.isEmpty_iff, List.filter_eq_nil_iff]
  simp

/-- Where no fault is injected and no other shard key stands in the way, all that matters is the
source. -/
theorem Spared.isOk_loadDataset_iff {plan : Plan} {files : FileTree} {s t : MemoryStore}
    {dataset : Dataset} {entry : DatasetReport} (h : Spared plan files s t dataset entry)
    (hkey : s.shardKey? dataset.name = none) :
    (Source.loadDataset files plan.rules dataset Schema.station).isOk = true ↔
      entry.error = none := by
  have hfailed : entry.error.isSome ↔
      ∃ e, Source.loadDataset files plan.rules dataset Schema.station = .error e := by
    refine h.failed.trans (or_iff_left ?_)
    rintro ⟨key, hfound, -⟩
    rw [hkey] at hfound
    cases hfound
  cases hload : Source.loadDataset files plan.rules dataset Schema.station with
  | error e =>
    have herror : entry.error.isSome := hfailed.2 ⟨e, hload⟩
    simp [Except.isOk, Except.toBool, Option.isSome_iff_ne_none.1 herror]
  | ok loaded =>
    have herror : ¬ entry.error.isSome := fun hsome => by
      obtain ⟨e, he⟩ := hfailed.1 hsome
      rw [hload] at he
      cases he
    simp [Except.isOk, Except.toBool, Option.not_isSome_iff_eq_none.1 herror]

end Provision

namespace CommandLine

open Store Provision Verify

/-! ### Phases -/

/-- **A sequence of two phases** runs as the one after the other, unless the first stops. -/
theorem bind_apply {σ α β : Type} (x : Phase σ α) (f : α → Phase σ β) (s : σ) :
    (x >>= f) s =
      match x s with
      | (.error stop, t) => (.error stop, t)
      | (.ok a, t) => f a t := by
  have hbind : (x >>= f) s = ExceptT.bindCont f (x s).1 (x s).2 := rfl
  rw [hbind]
  rcases x s with ⟨stop | a, t⟩ <;> rfl

theorem throw_apply {σ α : Type} (stop : Stop) (s : σ) :
    (throw stop : Phase σ α) s = (.error stop, s) := rfl

theorem pure_apply {σ α : Type} (a : α) (s : σ) : (pure a : Phase σ α) s = (.ok a, s) := rfl

theorem inSession_apply {σ ε α : Type} (backend : Backend σ) (settings : Settings)
    (p : StoreProgram ε (Except Error α)) (s : σ) :
    inSession backend settings p s =
      ((backend.session settings.store p s).value.mapError Stop.error,
        (backend.session settings.store p s).state) := rfl

section Phases

variable {env : Environment} {settings : Settings} {files : FileTree} {s : MemoryStore}

/-- Bootstrapping a store in memory never fails, and leaves its collections and faults alone. -/
theorem bootstrapPhase_apply (settings : Settings) (s : MemoryStore) :
    ∃ t : MemoryStore, bootstrapPhase (MemoryStore.backend true) settings s = (.ok (), t) ∧
      t.collections = s.collections ∧ t.faults = s.faults := by
  obtain ⟨user, users, huser⟩ := s.handle_ensureUser settings.bootstrap
  obtain ⟨partitioning, hpartitioned⟩ :=
    MemoryStore.handle_enablePartitioning { s with users := users } settings.store.database
  have hrun : (MemoryStore.backend true).session settings.store (Bootstrap.ofSettings settings) s =
      (closing (Bootstrap.ofSettings settings)).run MemoryStore.handle s := rfl
  rw [bootstrapPhase, bind_apply, inSession_apply, hrun]
  simp only [closing, Bootstrap.ofSettings, Bootstrap.run, Program.ask, Program.call_bind,
    Program.done_bind, Program.pure_eq, Program.run_call, Program.run_done, huser, hpartitioned]
  exact ⟨_, rfl, rfl, rfl⟩

theorem provisionPhase_apply {report : Provision.Report}
    (hok : (memoryRun env settings files s).value = .ok report) :
    provisionPhase (MemoryStore.backend true) settings env files s =
      (if report.isSuccess then .ok ()
        else .error (.datasetsFailed report.failed.length report.datasets.length),
        (memoryRun env settings files s).state) := by
  have hsession : (MemoryStore.backend true).session settings.store
      (Provision.run (Plan.ofSettings env settings) files) s = memoryRun env settings files s := rfl
  rw [provisionPhase, bind_apply, inSession_apply, hsession, hok]
  cases hsuccess : report.isSuccess with
  | true => simp [Except.mapError, hsuccess, pure_apply]
  | false => simp [Except.mapError, hsuccess, throw_apply]

theorem verifyPhase_apply {report : Verify.Report}
    (hok : (memoryVerification env settings files s).value = .ok report) :
    verifyPhase (MemoryStore.backend true) settings env files s =
      (if report.isConsistent then .ok () else .error .inconsistent,
        (memoryVerification env settings files s).state) := by
  have hsession : (MemoryStore.backend true).session settings.store
      (Verify.run (Catalog.ofSettings env settings) files) s =
        memoryVerification env settings files s := rfl
  rw [verifyPhase, bind_apply, inSession_apply, hsession, hok]
  cases hconsistent : report.isConsistent with
  | true => simp [Except.mapError, hconsistent, pure_apply]
  | false => simp [Except.mapError, hconsistent, throw_apply]

/-! ### Phases over a fresh store -/

/-- Every configured dataset has a source that loads. -/
def SourcesLoad (env : Environment) (settings : Settings) (files : FileTree) : Prop :=
  ∀ dataset ∈ Catalog.ofSettings env settings,
    (Source.loadDataset files settings.coercion dataset Schema.station).isOk = true

instance (env : Environment) (settings : Settings) (files : FileTree) :
    Decidable (SourcesLoad env settings files) :=
  List.decidableBAll _ _

theorem forall_mem_of_forall₂ {α β : Type} {p : α → Prop} {q : β → Prop} {l : List α}
    {m : List β} (h : List.Forall₂ (fun a b => p a → q b) l m) (hl : ∀ a ∈ l, p a) :
    ∀ b ∈ m, q b := by
  induction h with
  | nil => simp
  | cons hab _ ih =>
    obtain ⟨hfirst, hrest⟩ := List.forall_mem_cons.1 hl
    exact List.forall_mem_cons.2 ⟨hab hfirst, ih hrest⟩

section Fresh

variable (hcollections : s.collections = .empty) (hfaults : s.faults = .empty)
include hfaults

theorem fault?_eq_none (operation name : String) : s.fault? operation name = none := by
  rw [MemoryStore.fault?, hfaults]
  rfl

/-- Without injected faults a verification stops only where something is inconsistent. -/
theorem verifyPhase_of_faultless (env : Environment) (settings : Settings) (files : FileTree) :
    (verifyPhase (MemoryStore.backend true) settings env files s).1 =
      if ((Catalog.ofSettings env settings).map (checkAt files s)).all Check.isConsistent then
        .ok () else .error .inconsistent := by
  have hverified : (memoryVerification env settings files s).value =
      .ok ⟨(Catalog.ofSettings env settings).map (checkAt files s)⟩ :=
    memoryVerification_of_faultless fun dataset _ =>
      ⟨fault?_eq_none hfaults _ _, fault?_eq_none hfaults _ _⟩
  rw [verifyPhase_apply hverified]
  rfl

/-- **Verifying what was provisioned with success** finds nothing wrong. -/
theorem verifyPhase_provisioned (hnames : (settings.datasets.map DatasetEntry.name).Nodup)
    {report : Provision.Report} (hok : (memoryRun env settings files s).value = .ok report)
    (hsuccess : report.isSuccess = true) :
    (verifyPhase (MemoryStore.backend true) settings env files
      (memoryRun env settings files s).state).1 = .ok () := by
  have hrun : Provisioned env settings files s (memoryRun env settings files s) :=
    provisioned_memoryRun hnames
  rw [verifyPhase_of_faultless (hrun.frame.faults.trans hfaults), if_pos]
  refine List.all_eq_true.2 (forall_mem_of_forall₂ ?_ (Provision.Report.isSuccess_iff.1 hsuccess))
  exact (hrun.confirms hok).imp fun entry check h => h.consistent

include hcollections

/-- **Provisioning a fresh store** succeeds exactly when every source loads. -/
theorem exists_report_of_fresh (env : Environment) (files : FileTree)
    (hnames : (settings.datasets.map DatasetEntry.name).Nodup) :
    ∃ report, (memoryRun env settings files s).value = .ok report ∧
      (report.isSuccess = true ↔ SourcesLoad env settings files) := by
  have hrun : Provisioned env settings files s (memoryRun env settings files s) :=
    provisioned_memoryRun hnames
  have hfault := fault?_eq_none hfaults
  obtain ⟨report, hok⟩ := hrun.exists_report fun g hg => by
    obtain ⟨dataset, -, rfl⟩ := List.mem_map.1 hg
    exact fatal?_goal hfault dataset
  refine ⟨report, hok, ?_⟩
  rw [Provision.Report.isSuccess_iff, SourcesLoad]
  suffices h : List.Forall₂ (fun dataset entry =>
      (Source.loadDataset files settings.coercion dataset Schema.station).isOk = true ↔
        entry.error = none) (Catalog.ofSettings env settings) report.datasets from
    ⟨forall_mem_of_forall₂ (h.imp fun _ _ hiff => hiff.2).flip,
      forall_mem_of_forall₂ (h.imp fun _ _ hiff => hiff.1)⟩
  refine (hrun.entries hok).imp ?_
  rintro dataset entry ⟨hslot, hentry⟩
  have hspared : Spared (Plan.ofSettings env settings) files s
      (memoryRun env settings files s).state dataset entry :=
    spared_of_slot (g := goal env settings files dataset) rfl rfl hfault hslot hentry
  have hkey : s.shardKey? dataset.name = none := by
    rw [MemoryStore.shardKey?, hcollections]
    rfl
  exact hspared.isOk_loadDataset_iff hkey

/-- **Verifying a fresh store** finds every dataset inconsistent. -/
theorem verifyPhase_fresh (env : Environment) (settings : Settings) (files : FileTree) :
    (verifyPhase (MemoryStore.backend true) settings env files s).1 =
      if settings.datasets = [] then .ok () else .error .inconsistent := by
  have hmissing (dataset : Dataset) : (checkAt files s dataset).isConsistent = false :=
    isConsistent_of_missing (by rw [hcollections]; rfl)
      (checkOn_of_faultless files (fault?_eq_none hfaults _ _) (fault?_eq_none hfaults _ _))
  rw [verifyPhase_of_faultless hfaults, Catalog.ofSettings]
  cases settings.datasets with
  | nil => rfl
  | cons entry rest => simp [hmissing]

/-- **Provisioning a fresh store** in a phase of its own. -/
theorem isOk_provisionPhase (env : Environment) (files : FileTree)
    (hnames : (settings.datasets.map DatasetEntry.name).Nodup) :
    (provisionPhase (MemoryStore.backend true) settings env files s).1.isOk =
      decide (SourcesLoad env settings files) := by
  obtain ⟨report, hok, hsuccess⟩ := exists_report_of_fresh hcollections hfaults env files hnames
  rw [provisionPhase_apply hok]
  by_cases hload : SourcesLoad env settings files
  · simp [hsuccess.2 hload, hload, Except.isOk, Except.toBool]
  · simp [mt hsuccess.1 hload, hload, Except.isOk, Except.toBool]

/-- All phases over one fresh store stop only where provisioning it does. -/
theorem isOk_phases_all (env : Environment) (files : FileTree)
    (hnames : (settings.datasets.map DatasetEntry.name).Nodup) :
    (phases (MemoryStore.backend true) settings env files .all s).1.isOk =
      decide (SourcesLoad env settings files) := by
  obtain ⟨t, hbootstrap, hkept, hspared⟩ := bootstrapPhase_apply settings s
  have hcollections' : t.collections = .empty := hkept.trans hcollections
  have hfaults' : t.faults = .empty := hspared.trans hfaults
  obtain ⟨report, hok, hsuccess⟩ := exists_report_of_fresh hcollections' hfaults' env files hnames
  rw [phases, bind_apply, hbootstrap]
  simp only
  rw [bind_apply, provisionPhase_apply hok]
  by_cases hload : SourcesLoad env settings files
  · have hverify := verifyPhase_provisioned hfaults' hnames hok (hsuccess.2 hload)
    simp [hsuccess.2 hload, hload, hverify, Except.isOk, Except.toBool]
  · simp [mt hsuccess.1 hload, hload, Except.isOk, Except.toBool]

end Fresh

end Phases

/-! ### Exit codes -/

theorem exitCode_ofEnd (lines : List String) (ended : Except Stop Unit) :
    (Output.ofEnd lines ended).exitCode = if ended.isOk then 0 else 1 := by
  cases ended <;> rfl

theorem exitCode_invoke_dry {σ : Type} (cluster : Remote.Cluster σ) {env : Environment}
    {files : FileTree} {settings : Settings}
    (hnames : (settings.datasets.map DatasetEntry.name).Nodup) (command : Command) (s : σ) :
    (invoke cluster env files settings ⟨command, true⟩ s).1.exitCode =
      match command with
      | .bootstrap => 0
      | .verify => if settings.datasets = [] then 0 else 1
      | .provision | .all => if SourcesLoad env settings files then 0 else 1
      | .report _ => 1 := by
  cases command with
  | bootstrap =>
    obtain ⟨t, hbootstrap, -⟩ := bootstrapPhase_apply settings .empty
    rw [invoke, exitCode_ofEnd, phases, hbootstrap]
    rfl
  | provision =>
    rw [invoke, exitCode_ofEnd, phases, isOk_provisionPhase rfl rfl env files hnames]
    simp
  | verify =>
    rw [invoke, exitCode_ofEnd, phases, verifyPhase_fresh rfl rfl]
    split <;> rfl
  | all =>
    rw [invoke, exitCode_ofEnd, isOk_phases_all rfl rfl env files hnames]
    simp
  | report name => rfl

/-- The exit code of a dry run: with settings that can be used, it depends on the first word that is
no flag, and on the sources. -/
def dryExitCode (env : Environment) (files : FileTree) (arguments : List String) : Nat :=
  match settingsOf env files with
  | .error _ => 1
  | .ok settings =>
    match arguments.find? fun argument => !isFlag argument with
    | none | some "provision" | some "all" => if SourcesLoad env settings files then 0 else 1
    | some "bootstrap" => 0
    | some "verify" => if settings.datasets = [] then 0 else 1
    | some "report" => 1
    | some _ => 2

theorem any_isDryRunFlag {arguments : List String} :
    arguments.any isDryRunFlag = true ↔ "--dry-run" ∈ arguments ∨ "-n" ∈ arguments := by
  simp [isDryRunFlag, and_or_left, exists_or]

/-- **The exit code of every dry run.**  Where the flags stand, and which others there are, changes
nothing. -/
theorem exitCode_of_dryRun {σ : Type} (cluster : Remote.Cluster σ) (arguments : List String)
    (env : Environment) (files : FileTree) (s : σ)
    (hdry : "--dry-run" ∈ arguments ∨ "-n" ∈ arguments) :
    (run cluster arguments env files s).1.exitCode = dryExitCode env files arguments ∧
      ∀ others, ("--dry-run" ∈ others ∨ "-n" ∈ others) →
        others.filter (fun argument => !isFlag argument) =
          arguments.filter (fun argument => !isFlag argument) →
        run cluster others env files s = run cluster arguments env files s := by
  have hflag : arguments.any isDryRunFlag = true := any_isDryRunFlag.2 hdry
  constructor
  · rw [run, dryExitCode]
    cases hsettings : settingsOf env files with
    | error fault => rfl
    | ok settings =>
      have hnames := Settings.nodup_of_ofConfig hsettings
      rw [Invocation.ofArguments, hflag, ← List.head?_filter]
      cases arguments.filter fun argument => !isFlag argument with
      | nil => exact exitCode_invoke_dry cluster hnames .provision s
      | cons word rest =>
        rw [List.head?_cons, Command.ofWords]
        split_ifs with hbootstrap hprovision hverify hall hreport
        · subst hbootstrap
          exact exitCode_invoke_dry cluster hnames .bootstrap s
        · subst hprovision
          exact exitCode_invoke_dry cluster hnames .provision s
        · subst hverify
          exact exitCode_invoke_dry cluster hnames .verify s
        · subst hall
          exact exitCode_invoke_dry cluster hnames .all s
        · subst hreport
          exact exitCode_invoke_dry cluster hnames (.report rest.head?) s
        · simp [Output.unknownCommand]
  · intro others hothers hwords
    rw [run, run, Invocation.ofArguments, Invocation.ofArguments, hwords, hflag,
      any_isDryRunFlag.2 hothers]

/-- A configuration with one dataset, and its source. -/
def configuredFiles : FileTree :=
  ⟨(["config.toml"], .text <|
      "data.base_dir = \"data\"\n" ++
      "[[datasets]]\nname = \"stations\"\nsource = \"stations.json\"\n") :: sampleFiles.entries⟩

/-- The cluster is out of reach; only `verify` finds something wrong, as it starts from nothing. -/
theorem exitCode_of_dryRun_configured :
    (run Remote.outOfReach ["-n", "all"] .empty configuredFiles ()).1.exitCode = 0 ∧
      (run Remote.outOfReach ["verify", "--dry-run"] .empty configuredFiles ()).1.exitCode = 1 ∧
      run Remote.outOfReach ["all", "--dry-run", "--fast"] .empty configuredFiles () =
        run Remote.outOfReach ["-n", "all"] .empty configuredFiles () := by
  obtain ⟨hall, hsame⟩ :=
    exitCode_of_dryRun Remote.outOfReach ["-n", "all"] .empty configuredFiles () (by decide)
  obtain ⟨hverify, -⟩ :=
    exitCode_of_dryRun Remote.outOfReach ["verify", "--dry-run"] .empty configuredFiles ()
      (by decide)
  exact ⟨hall.trans (by decide +kernel), hverify.trans (by decide +kernel),
    hsame _ (by decide) (by decide +kernel)⟩

end CommandLine

end BulkProvision
