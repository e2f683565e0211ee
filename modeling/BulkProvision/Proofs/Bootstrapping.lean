import BulkProvision.Proofs.Persistence
import BulkProvision.Proofs.Session
import BulkProvision.Proofs.Verification

/-!
# Bootstrapping a store in memory

A bootstrap makes sure of a user and enables partitioning, in this order.  Its report says
truthfully whether anything changed, and what it did is lasting: whatever happens to the store
afterwards, another bootstrap finds nothing to do (`Bootstrapped`).

It does not matter whether a store is bootstrapped before or after it is provisioned (`Commutes`):
a provisioning looks at collections and faults only (`Alike.run`), and a bootstrap at neither.  When
a store refuses to enable partitioning, the user is there all the same, and a later bootstrap does
the rest (`Resumes`).
-/

namespace BulkProvision

open Store

namespace Store

namespace MemoryStore

/-! ### The users and the databases -/

/-- The users once one of them is made sure of. -/
def withUser (users : NameMap Credential) (credential : Credential) : NameMap Credential :=
  match users.get? credential.user with
  | some _ => users
  | none => users.insert credential.user credential

/-- Making sure of a user does not fail, and gives no user that is there another credential. -/
theorem handle_ensureUser_withUser (s : MemoryStore) (credential : Credential) :
    ∃ outcome, handle (.ensureUser credential) s =
      (.ok outcome, { s with users := withUser s.users credential }) := by
  have hanswer : handle (.ensureUser credential) s = s.answer (.ensureUser credential) := rfl
  rw [hanswer, answer, withUser]
  cases s.users.get? credential.user with
  | some held => exact ⟨_, rfl⟩
  | none => exact ⟨_, rfl⟩

/-! ### Stores with the same collections -/

/-- Two stores hold the same collections and have the same faults injected. -/
structure Alike (s t : MemoryStore) : Prop where
  collections : t.collections = s.collections
  faults : t.faults = s.faults

section Alike

variable {s t : MemoryStore}

theorem Alike.refl (s : MemoryStore) : Alike s s := ⟨rfl, rfl⟩

theorem Alike.slot (h : Alike s t) (name : String) : t.slot name = s.slot name := by
  rw [MemoryStore.slot, MemoryStore.slot, h.collections]
  refine congrArg (Slot.mk _) (funext fun operation => ?_)
  rw [fault?, fault?, h.faults]

/-- A call about a collection is answered alike, and does the same to the collections. -/
theorem Alike.handle (h : Alike s t) {call : Call} (habout : call.collection?.isSome) :
    (handle call t).1 = (handle call s).1 ∧
      (handle call t).2 = { t with collections := (handle call s).2.collections } ∧
      Alike (handle call s).2 (handle call t).2 := by
  obtain ⟨name, hname⟩ := Option.isSome_iff_exists.1 habout
  obtain ⟨answer, given, hanswer⟩ := handle_of_slot hname (s.slot name)
  rw [hanswer s rfl, hanswer t (h.slot name)]
  cases given with
  | none =>
    refine ⟨rfl, ?_, h⟩
    change t = { t with collections := s.collections }
    rw [← h.collections]
  | some c =>
    have hinsert : t.collections.insert name c = s.collections.insert name c := by
      rw [h.collections]
    refine ⟨rfl, ?_, hinsert, h.faults⟩
    change { t with collections := t.collections.insert name c } = _
    rw [hinsert]
    rfl

/-- **A program that calls about collections only** goes the same way over stores with the same
collections and faults, and leaves the rest of each as it was. -/
theorem Alike.run {ε α : Type} {p : StoreProgram ε α} (h : Alike s t)
    (habout : ∀ call answer, .called call answer ∈ (p.run MemoryStore.handle s).steps →
      call.collection?.isSome) :
    (p.run MemoryStore.handle t).value = (p.run MemoryStore.handle s).value ∧
      (p.run MemoryStore.handle t).steps = (p.run MemoryStore.handle s).steps ∧
      (p.run MemoryStore.handle t).state =
        { t with collections := (p.run MemoryStore.handle s).state.collections } := by
  induction p generalizing s t with
  | done value =>
    refine ⟨rfl, rfl, ?_⟩
    change t = { t with collections := s.collections }
    rw [← h.collections]
  | emit event next ih =>
    obtain ⟨hvalue, hsteps, hstate⟩ := ih h fun call answer hmem =>
      habout call answer (List.mem_cons_of_mem _ hmem)
    exact ⟨hvalue, congrArg (List.cons _) hsteps, hstate⟩
  | call op next ih =>
    obtain ⟨hanswer, hafter, halike⟩ := h.handle (habout op _ List.mem_cons_self)
    obtain ⟨hvalue, hsteps, hstate⟩ := ih (MemoryStore.handle op s).1 halike fun call answer hmem =>
      habout call answer (List.mem_cons_of_mem _ hmem)
    simp only [Program.run_call, hanswer]
    refine ⟨hvalue, congrArg (List.cons _) hsteps, ?_⟩
    rw [hstate, hafter]

end Alike

end MemoryStore

end Store

namespace Bootstrap

open MemoryStore (handle withUser Keeps Met Alike)

/-! ### One bootstrap -/

/-- What a bootstrap over an open connection comes to. -/
abbrev BootstrapRun (σ : Type) := Program.Run Call Call.Answer Empty σ (Except Error Report)

/-- **A bootstrap** over any store: the user first, and partitioning unless that failed. -/
theorem run_run {σ : Type} (handler : CallHandler σ) (credential : Credential) (database : String)
    (s : σ) :
    (run credential database).run handler s =
      let user := handler (.ensureUser credential) s
      match user.1 with
      | .error e => ⟨.error e, [.called (.ensureUser credential) (.error e)], user.2⟩
      | .ok outcome =>
        let partitioning := handler (.enablePartitioning database) user.2
        ⟨partitioning.1.map fun outcome' => ⟨[outcome, outcome']⟩,
          [.called (.ensureUser credential) (.ok outcome),
            .called (.enablePartitioning database) partitioning.1], partitioning.2⟩ := by
  simp only [run, Program.ask, Program.call_bind, Program.done_bind, Program.run_call]
  rcases handler (.ensureUser credential) s with ⟨e | outcome, t⟩
  · rfl
  · simp only [Program.run_call]
    rcases handler (.enablePartitioning database) t with ⟨e | outcome', u⟩
    · rfl
    · rfl

/-- A bootstrap over a store in memory. -/
theorem run_memory (credential : Credential) (database : String) (s : MemoryStore) :
    ∃ user partitioning first second,
      first = { s with users := withUser s.users credential } ∧
      second = { first with partitioned := s.partitioned.insert database () } ∧
      handle (.ensureUser credential) s = (.ok user, first) ∧
      handle (.enablePartitioning database) first = (.ok partitioning, second) ∧
      (run credential database).run handle s =
        ⟨.ok ⟨[user, partitioning]⟩,
          [.called (.ensureUser credential) (.ok user),
            .called (.enablePartitioning database) (.ok partitioning)], second⟩ := by
  obtain ⟨user, huser⟩ := s.handle_ensureUser_withUser credential
  obtain ⟨partitioning, hpartitioning⟩ :=
    MemoryStore.handle_enablePartitioning { s with users := withUser s.users credential } database
  refine ⟨user, partitioning, _, _, rfl, rfl, huser, hpartitioning, ?_⟩
  rw [run_run, huser]
  simp only [hpartitioning]
  rfl

/-! ### What happens in between -/

/-- What can happen to a store in memory. -/
inductive Activity where
  | action (action : Action)
  | bootstrapping (settings : Settings)
  | provisioning (env : Environment) (settings : Settings) (files : FileTree)
  | verification (env : Environment) (settings : Settings) (files : FileTree)

/-- A bootstrap over a connection to a store in memory. -/
def memoryBootstrap (settings : Settings) (s : MemoryStore) : BootstrapRun MemoryStore :=
  (MemoryStore.backend true).session settings.store (ofSettings settings) s

/-- The store after something happened to it. -/
def Activity.after (s : MemoryStore) : Activity → MemoryStore
  | action a => (s.act a).2
  | bootstrapping settings => (memoryBootstrap settings s).state
  | provisioning env settings files => (Provision.memoryRun env settings files s).state
  | verification env settings files => (Verify.memoryVerification env settings files s).state

/-- The store after one thing and another happened to it. -/
def undergo (s : MemoryStore) (activities : List Activity) : MemoryStore :=
  activities.foldl Activity.after s

theorem keeps_after (s : MemoryStore) (activity : Activity) : Keeps s (activity.after s) := by
  cases activity with
  | action a => exact (MemoryStore.effect_act a s).keeps
  | bootstrapping settings => exact MemoryStore.keeps_session settings.store _ s
  | provisioning env settings files => exact MemoryStore.keeps_session settings.store _ s
  | verification env settings files => exact MemoryStore.keeps_session settings.store _ s

/-- Whatever happens, nothing is lost. -/
theorem keeps_undergo (s : MemoryStore) (activities : List Activity) :
    Keeps s (undergo s activities) := by
  induction activities generalizing s with
  | nil => exact .refl s
  | cons activity rest ih => exact (keeps_after s activity).trans (ih _)

/-! ### Twice, and in either order -/

/-- What a bootstrap does to a store in memory. -/
structure Bootstrapped (credential : Credential) (database : String) (s : MemoryStore)
    (first : BootstrapRun MemoryStore) : Prop where
  /-- There are two steps, one for each call, and neither fails. -/
  steps : ∃ user partitioning, first.value = .ok ⟨[user, partitioning]⟩ ∧
    first.steps = [.called (.ensureUser credential) (.ok user),
      .called (.enablePartitioning database) (.ok partitioning)]
  changed : ∀ report, first.value = .ok report → (report.changed = true ↔ first.state ≠ s)
  /-- The password of a user that was there is not looked at. -/
  user : ∀ held, s.users.get? credential.user = some held →
    first.state.users.get? credential.user = some held
  /-- Whatever happens in between, a second bootstrap finds nothing to do. -/
  again : ∀ activities t, undergo first.state activities = t →
    ∃ user partitioning,
      ((run credential database).run handle t).value =
        .ok ⟨[.alreadySatisfied user, .alreadySatisfied partitioning]⟩ ∧
      ((run credential database).run handle t).state = t

/-- Bootstrapping and provisioning can change places. -/
structure Commutes (env : Environment) (settings : Settings) (files : FileTree)
    (s : MemoryStore) : Prop where
  state : (Provision.memoryRun env settings files (memoryBootstrap settings s).state).state =
    (memoryBootstrap settings (Provision.memoryRun env settings files s).state).state
  value : (Provision.memoryRun env settings files (memoryBootstrap settings s).state).value =
    (Provision.memoryRun env settings files s).value

/-- What is left of a bootstrap over a store in memory that could not enable partitioning. -/
structure HalfDone (credential : Credential) (database : String) (s : MemoryStore) (e : Error)
    (failed : BootstrapRun MemoryStore) : Prop where
  value : failed.value = .error e
  user : failed.state.hasUser credential.user = true
  partitioned : failed.state.partitioned = s.partitioned
  /-- A later bootstrap finds the user there and does the rest, whatever happened in between. -/
  later : ∀ activities t, undergo failed.state activities = t →
    ∃ user partitioning,
      ((run credential database).run handle t).value = .ok ⟨[user, partitioning]⟩ ∧
      user.isNoop = true ∧ (partitioning.isNoop = true ↔ t.isPartitioned database = true) ∧
      ((run credential database).run handle t).state.isPartitioned database = true

/-- How a bootstrap over any store ends, by what the store answers. -/
structure Resumes {σ : Type} (credential : Credential) (database : String)
    (handler : CallHandler σ) (s : σ) : Prop where
  failed : ∀ user t e u, handler (.ensureUser credential) s = (.ok user, t) →
    handler (.enablePartitioning database) t = (.error e, u) →
      (run credential database).run handler s =
        ⟨.error e, [.called (.ensureUser credential) (.ok user),
          .called (.enablePartitioning database) (.error e)], u⟩
  /-- One that does not fail has done both steps. -/
  completed : ∀ report, ((run credential database).run handler s).value = .ok report →
    ∃ user partitioning, report.steps = [user, partitioning] ∧
      ((run credential database).run handler s).steps =
        [.called (.ensureUser credential) (.ok user),
          .called (.enablePartitioning database) (.ok partitioning)]

section Memory

variable {s t : MemoryStore} {credential : Credential} {database : String}

theorem eq_ok_of_toOption {α : Type} {x : Except Error α} {value : α}
    (h : x.toOption = some value) : x = .ok value := by
  cases x with
  | error e => cases h
  | ok value' => exact congrArg Except.ok (Option.some.inj h)

/-- A store in which both goals are met: a bootstrap says so and changes nothing. -/
theorem run_of_met (huser : Met s (.ensureUser credential))
    (hpartitioned : Met s (.enablePartitioning database)) :
    ∃ user partitioning,
      ((run credential database).run handle s).value =
        .ok ⟨[.alreadySatisfied user, .alreadySatisfied partitioning]⟩ ∧
      ((run credential database).run handle s).state = s := by
  obtain ⟨user, hanswer, hstate⟩ := MemoryStore.handle_of_met huser rfl
  obtain ⟨partitioning, hanswer', hstate'⟩ := MemoryStore.handle_of_met hpartitioned rfl
  have hfirst : handle (.ensureUser credential) s = (.ok (.alreadySatisfied user), s) :=
    Prod.ext (eq_ok_of_toOption hanswer) hstate
  have hsecond : handle (.enablePartitioning database) s =
      (.ok (.alreadySatisfied partitioning), s) :=
    Prod.ext (eq_ok_of_toOption hanswer') hstate'
  have hrun := run_run handle credential database s
  rw [hfirst] at hrun
  simp only [hsecond] at hrun
  rw [hrun]
  exact ⟨user, partitioning, rfl, rfl⟩

/-- Both goals are met after a bootstrap. -/
theorem met_run (credential : Credential) (database : String) (s : MemoryStore) :
    Met ((run credential database).run handle s).state (.ensureUser credential) ∧
      Met ((run credential database).run handle s).state (.enablePartitioning database) := by
  obtain ⟨user, partitioning, first, second, -, -, huser, hpartitioning, hrun⟩ :=
    run_memory credential database s
  have hfirst : Met (handle (.ensureUser credential) s).2 (.ensureUser credential) :=
    @MemoryStore.met_of_outcome? _ _ user (by rw [huser]; rfl)
  have hsecond : Met (handle (.enablePartitioning database) first).2
      (.enablePartitioning database) :=
    @MemoryStore.met_of_outcome? _ _ partitioning (by rw [hpartitioning]; rfl)
  have hkeeps : Keeps first (handle (.enablePartitioning database) first).2 :=
    MemoryStore.keeps_handle (.enablePartitioning database) first
  rw [hpartitioning] at hsecond hkeeps
  rw [huser] at hfirst
  rw [hrun]
  exact ⟨hfirst.of_keeps hkeeps, hsecond⟩

theorem changed_pair (user partitioning : Outcome) :
    Report.changed ⟨[user, partitioning]⟩ = true ↔
      ¬ (user.isNoop = true ∧ partitioning.isNoop = true) := by
  simp only [Report.changed, List.any_cons, List.any_nil, Bool.or_false]
  cases user.isNoop <;> cases partitioning.isNoop <;> simp

/-- The report of a bootstrap says whether the store changed. -/
theorem changed_iff {report : Report}
    (h : ((run credential database).run handle s).value = .ok report) :
    report.changed = true ↔ ((run credential database).run handle s).state ≠ s := by
  obtain ⟨user, partitioning, first, second, hfirst, hsecond, huser, hpartitioning, hrun⟩ :=
    run_memory credential database s
  rw [hrun] at h ⊢
  cases h
  have huserNoop : user.isNoop = true ↔ (handle (.ensureUser credential) s).2 = s :=
    (@MemoryStore.truthful_of_outcome? _ _ user (by rw [huser]; rfl)).isNoop_iff
  have hpartitioningNoop : partitioning.isNoop = true ↔
      (handle (.enablePartitioning database) first).2 = first :=
    (@MemoryStore.truthful_of_outcome? _ _ partitioning (by rw [hpartitioning]; rfl)).isNoop_iff
  rw [huser] at huserNoop
  rw [hpartitioning] at hpartitioningNoop
  rw [changed_pair, huserNoop, hpartitioningNoop]
  refine not_congr ⟨fun ⟨hsame, hsame'⟩ => hsame'.trans hsame, fun hsame => ?_⟩
  -- the steps change different parts of the store, so the second does not undo the first
  have husers : withUser s.users credential = s.users := by
    rw [hsecond, hfirst] at hsame
    exact congrArg MemoryStore.users hsame
  have heq : first = s := by rw [hfirst, husers]
  exact ⟨heq, hsame.trans heq.symm⟩

/-- **One bootstrap, and another later.** -/
theorem bootstrapped_run (credential : Credential) (database : String) (s : MemoryStore) :
    Bootstrapped credential database s ((run credential database).run handle s) := by
  obtain ⟨hmet, hmet'⟩ := met_run credential database s
  refine ⟨?_, fun report => changed_iff, ?_, ?_⟩
  · obtain ⟨user, partitioning, first, second, -, -, -, -, hrun⟩ :=
      run_memory credential database s
    rw [hrun]
    exact ⟨user, partitioning, rfl, rfl⟩
  · intro held hheld
    exact (MemoryStore.keeps_run _ s).user credential.user held hheld
  · intro activities t ht
    have hkeeps := keeps_undergo ((run credential database).run handle s).state activities
    rw [ht] at hkeeps
    exact run_of_met (hmet.of_keeps hkeeps) (hmet'.of_keeps hkeeps)

/-- A provisioning goes the same way over stores with the same collections and faults. -/
theorem memoryRun_of_alike (env : Environment) (settings : Settings) (files : FileTree)
    (h : Alike s t) :
    (Provision.memoryRun env settings files t).value =
        (Provision.memoryRun env settings files s).value ∧
      (Provision.memoryRun env settings files t).state =
        { t with
          collections := (Provision.memoryRun env settings files s).state.collections,
          partitioned := t.partitioned.insert settings.store.database (),
          closed := t.closed + 1 } := by
  obtain ⟨outcome, walk, hwalk, hrun⟩ := Provision.memoryRun_eq env settings files s
  obtain ⟨outcome', walk', hwalk', hrun'⟩ := Provision.memoryRun_eq env settings files t
  have hopened : Alike { s with partitioned := s.partitioned.insert settings.store.database () }
      { t with partitioned := t.partitioned.insert settings.store.database () } :=
    ⟨h.collections, h.faults⟩
  obtain ⟨hvalue, -, hstate⟩ := hopened.run fun call answer hcalled => by
    obtain ⟨dataset, -, habout⟩ := Provision.collection?_of_provisionDatasets _ _ _ _ _ hcalled
    exact Option.isSome_of_eq_some habout
  rw [← hwalk, ← hwalk'] at hvalue hstate
  rw [hrun, hrun']
  refine ⟨congrArg (Except.map Provision.Report.mk) hvalue, ?_⟩
  rw [hstate]

theorem state_memoryBootstrap (settings : Settings) (s : MemoryStore) :
    (memoryBootstrap settings s).state =
      { s with
        users := withUser s.users settings.bootstrap,
        partitioned := s.partitioned.insert settings.store.database (),
        closed := s.closed + 1 } := by
  obtain ⟨user, partitioning, first, second, hfirst, hsecond, -, -, hrun⟩ :=
    run_memory settings.bootstrap settings.store.database s
  have hclosing : memoryBootstrap settings s =
      (closing (ofSettings settings)).run handle s := rfl
  rw [hclosing, run_closing, ofSettings, hrun, hsecond, hfirst]
  rfl

/-- **A bootstrap and a provisioning** in either order. -/
theorem commutes_of_settings (env : Environment) (settings : Settings) (files : FileTree)
    (s : MemoryStore) : Commutes env settings files s := by
  have halike : Alike s (memoryBootstrap settings s).state := by
    rw [state_memoryBootstrap]
    exact ⟨rfl, rfl⟩
  obtain ⟨hvalue, hstate⟩ := memoryRun_of_alike env settings files halike
  obtain ⟨-, halone⟩ := memoryRun_of_alike env settings files (.refl s)
  refine ⟨?_, hvalue⟩
  rw [hstate, state_memoryBootstrap, state_memoryBootstrap, halone]

end Memory

/-! ### Half a bootstrap -/

theorem resumes_of_handler {σ : Type} (credential : Credential) (database : String)
    (handler : CallHandler σ) (s : σ) : Resumes credential database handler s := by
  have hrun := run_run handler credential database s
  refine ⟨fun user t e u huser hpartitioning => ?_, fun report hreport => ?_⟩
  · rw [hrun, huser]
    simp only [hpartitioning]
    rfl
  · rw [hrun] at hreport ⊢
    rcases huser : handler (.ensureUser credential) s with ⟨e | user, t⟩
    · rw [huser] at hreport
      cases hreport
    · rw [huser] at hreport
      rcases hpartitioning : handler (.enablePartitioning database) t with ⟨e | partitioning, u⟩
      · simp only [hpartitioning] at hreport
        cases hreport
      · simp only [hpartitioning] at hreport ⊢
        cases hreport
        exact ⟨user, partitioning, rfl, rfl⟩

/-- A store that makes sure of the user but refuses to enable partitioning. -/
theorem halfDone_of_refusing {credential : Credential} {database : String}
    {refuse : Call → Option Error} {e : Error} (huser : refuse (.ensureUser credential) = none)
    (hpartitioning : refuse (.enablePartitioning database) = some e) (s : MemoryStore) :
    HalfDone credential database s e ((run credential database).run
      ((MemoryStore.backend true).refusing refuse).handle s) := by
  obtain ⟨user, hensured⟩ := s.handle_ensureUser_withUser credential
  have hfirst : ((MemoryStore.backend true).refusing refuse).handle (.ensureUser credential) s =
      (.ok user, { s with users := withUser s.users credential }) := by
    rw [Backend.refusing]
    simp only [huser]
    exact hensured
  have hsecond (t : MemoryStore) : ((MemoryStore.backend true).refusing refuse).handle
      (.enablePartitioning database) t = (.error e, t) := by
    rw [Backend.refusing]
    simp only [hpartitioning]
    rfl
  rw [(resumes_of_handler credential database _ s).failed user _ e _ hfirst (hsecond _)]
  have hmet : Met { s with users := withUser s.users credential } (.ensureUser credential) := by
    have h := @MemoryStore.met_of_outcome? s (.ensureUser credential) user (by rw [hensured]; rfl)
    rwa [hensured] at h
  refine ⟨rfl, hmet, rfl, fun activities t ht => ?_⟩
  obtain ⟨user', partitioning, first, second, hfirst', -, huser', hpartitioning', hrun⟩ :=
    run_memory credential database t
  have hkept : Met t (.ensureUser credential) := ht ▸ hmet.of_keeps (keeps_undergo _ activities)
  refine ⟨user', partitioning, by rw [hrun], ?_, ?_, (met_run credential database t).2⟩
  · exact (MemoryStore.isNoop_iff_met (by rw [huser']; rfl)).2 hkept
  · have hiff := @MemoryStore.isNoop_iff_met first (.enablePartitioning database) partitioning
      (by rw [hpartitioning']; rfl)
    rw [hfirst'] at hiff
    exact hiff

/-- **Bootstrapping is repeatable, says truthfully what it did, and does not depend on
provisioning.**  Over every store in memory a bootstrap has two steps, its report says whether the
store changed, and after whatever follows another finds nothing to do; provisioning the store before
or after comes to the same.  Where partitioning could not be enabled the error comes back, and a
bootstrap that does not fail does what is left to do. -/
theorem bootstrapped_of_store (credential : Credential) (database : String) (s : MemoryStore) :
    Bootstrapped credential database s ((run credential database).run handle s) ∧
      (∀ env settings files, Commutes env settings files s) ∧
      (∀ refuse e, refuse (.ensureUser credential) = none →
        refuse (.enablePartitioning database) = some e →
          HalfDone credential database s e ((run credential database).run
            ((MemoryStore.backend true).refusing refuse).handle s)) ∧
      ∀ (σ : Type) (handler : CallHandler σ) (t : σ), Resumes credential database handler t :=
  ⟨bootstrapped_run credential database s,
    fun env settings files => commutes_of_settings env settings files s,
    fun _ _ huser hpartitioning => halfDone_of_refusing huser hpartitioning s,
    fun _ handler t => resumes_of_handler credential database handler t⟩

/-- A store with the user, by another password. -/
def enlisted : MemoryStore :=
  { MemoryStore.empty with
    users := NameMap.empty.insert "admin" ⟨"admin", "first", "root", "admin"⟩ }

/-- The user keeps the password, and partitioning is enabled; if that is refused, nothing
changes. -/
theorem bootstrapped_of_store_enlisted :
    let credential : Credential := ⟨"admin", "second", "root", "admin"⟩
    let refuse (call : Call) : Option Error :=
      if call = .enablePartitioning "weather" then some (.unreachable "enable_partitioning" "lost")
      else none
    let first := (run credential "weather").run handle enlisted
    let failed := (run credential "weather").run
      ((MemoryStore.backend true).refusing refuse).handle enlisted
    Bootstrapped credential "weather" enlisted first ∧ first.state ≠ enlisted ∧
      first.state.users.get? "admin" = some ⟨"admin", "first", "root", "admin"⟩ ∧
      HalfDone credential "weather" enlisted (.unreachable "enable_partitioning" "lost") failed ∧
      failed.state = enlisted := by
  intro credential refuse first failed
  obtain ⟨hbootstrapped, -, hhalf, -⟩ := bootstrapped_of_store credential "weather" enlisted
  exact ⟨hbootstrapped, by decide +kernel, hbootstrapped.user _ (by decide +kernel),
    hhalf refuse _ (by decide +kernel) (by decide +kernel), by decide +kernel⟩

end Bootstrap

end BulkProvision
