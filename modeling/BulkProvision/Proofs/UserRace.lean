import BulkProvision.Proofs.Interleaving
import BulkProvision.Proofs.Requests
import Mathlib.Data.Fintype.Card

/-!
# Clients that make sure of one user

A client that makes sure of a user asks about it first and creates it if nobody is listed.  These
are two requests, and between them other clients can create the user.  The clients agree all the
same, whatever the order of their requests (`agreed_of_interleaved`): one of them creates the user,
and the others find it there, be it that it is listed or that the cluster refuses to create it again
(`KeepsUser.present`).

`Settling` is what holds after every request: how far each client has come (`Stage`), and that the
user is there as soon as one client says so.
-/

namespace BulkProvision

namespace Remote

open Store Program

/-- The request that asks about a user. -/
def infoRequest (database user : String) : Request := .command database (userInfoCommand user)

/-- The request that creates a user. -/
def creationRequest (credential : Credential) : Request :=
  .command credential.authDatabase (createUserCommand credential)

/-- How a cluster keeps a user, given the credential by which it holds it: it lists the user exactly
when it holds one, adds one that it does not hold, and refuses to add one that it holds. -/
structure KeepsUser {σ : Type} (cluster : Cluster σ) (database user : String)
    (held : σ → Option Credential) : Prop where
  listed (s : σ) : ∃ (reply : Document) (users : List Document.Value) (t : σ),
    cluster (infoRequest database user) s = (.ok reply, t) ∧ held t = held s ∧
      reply.get? "users" = some (.array users) ∧ (users = [] ↔ held s = none)
  added (s : σ) (credential : Credential) (huser : credential.user = user)
    (hdatabase : credential.authDatabase = database) (h : held s = none) :
    ∃ (reply : Document) (t : σ),
      cluster (creationRequest credential) s = (.ok reply, t) ∧ held t = some credential
  present (s : σ) (credential : Credential) (huser : credential.user = user)
    (hdatabase : credential.authDatabase = database) (h : held s ≠ none) :
    ∃ (codeName message : String) (t : σ),
      cluster (creationRequest credential) s = (.error (.command 51003 codeName message), t) ∧
        held t = held s

/-! ### One client -/

/-- A client on its way to an outcome. -/
abbrev Client := RequestProgram Empty (Except Error Outcome)

/-- The client is done, and it created the user. -/
def Applies (client : Client) : Prop := ∃ note, client = .done (.ok (.applied note))

/-- The client is done, and it found the user there. -/
def FindsMet (client : Client) : Prop := ∃ note, client = .done (.ok (.alreadySatisfied note))

/-- What a client may have sent, with the answers: the question comes first, and one creation
follows where the answer lists nobody. -/
inductive Conduct (credential : Credential) :
    List (Step Request Request.Answer Empty) → Prop where
  | idle : Conduct credential []
  | asked (answer : Except Failure Document) :
      Conduct credential [.called (infoRequest credential.authDatabase credential.user) answer]
  | created (reply : Document) (answer : Except Failure Document)
      (h : reply.get? "users" = some (.array [])) :
      Conduct credential
        [.called (infoRequest credential.authDatabase credential.user) (.ok reply),
          .called (creationRequest credential) answer]

/-- What a client does with the answer to its creation. -/
def afterCreation (credential : Credential) (created : Except Failure Document) : Client :=
  .done (settle "ensure_user" credential.user ("admin user " ++ credential.user ++ " created")
    [userExists] created)

/-- What a client does with the answer to its question. -/
def afterInfo (credential : Credential) : Except Failure Document → Client
  | .error failure => .done (.error (failure.error "ensure_user" credential.user))
  | .ok reply =>
    if listsUser reply then
      .done (.ok (.alreadySatisfied ("admin user " ++ credential.user ++ " already exists")))
    else .call (creationRequest credential) (afterCreation credential)

/-- How far a client has come: what it has left to do, and what it has sent. -/
inductive Stage (credential : Credential) :
    Client → List (Step Request Request.Answer Empty) → Prop where
  | asking : Stage credential (ensureUser credential) []
  | listed (note : String) (answer : Except Failure Document) :
      Stage credential (.done (.ok (.alreadySatisfied note)))
        [.called (infoRequest credential.authDatabase credential.user) answer]
  | creating (reply : Document) (h : reply.get? "users" = some (.array [])) :
      Stage credential (.call (creationRequest credential) (afterCreation credential))
        [.called (infoRequest credential.authDatabase credential.user) (.ok reply)]
  | settled (client : Client) (reply : Document) (answer : Except Failure Document)
      (hclient : Applies client ∨ FindsMet client) (h : reply.get? "users" = some (.array [])) :
      Stage credential client
        [.called (infoRequest credential.authDatabase credential.user) (.ok reply),
          .called (creationRequest credential) answer]

section Client

variable {credential : Credential} {client : Client}
  {steps : List (Step Request Request.Answer Empty)}

theorem Stage.conduct (h : Stage credential client steps) : Conduct credential steps := by
  cases h with
  | asking => exact .idle
  | listed note answer => exact .asked answer
  | creating reply h => exact .asked (.ok reply)
  | settled client reply answer hclient h => exact .created reply answer h

theorem Conduct.length_le (h : Conduct credential steps) : steps.length ≤ 2 := by
  cases h with
  | idle => exact Nat.zero_le 2
  | asked answer => exact Nat.le_succ 1
  | created reply answer h => exact Nat.le_refl 2

/-- A client that is done either created the user or found it there. -/
theorem Stage.outcome (h : Stage credential client steps) {value : Except Error Outcome}
    (hdone : client = .done value) : Applies client ∨ FindsMet client := by
  cases h with
  | asking => cases hdone
  | listed note answer => exact .inr ⟨note, rfl⟩
  | creating reply h => cases hdone
  | settled client reply answer hclient h => exact hclient

/-- A client that has something left to send is not done. -/
theorem not_applies_call {request : Request} {next : request.Answer → Client} :
    ¬ Applies (.call request next) := by
  rintro ⟨note, heq⟩
  cases heq

theorem not_findsMet_call {request : Request} {next : request.Answer → Client} :
    ¬ FindsMet (.call request next) := by
  rintro ⟨note, heq⟩
  cases heq

theorem not_findsMet_of_applies (h : Applies client) : ¬ FindsMet client := by
  obtain ⟨note, rfl⟩ := h
  rintro ⟨note', heq⟩
  cases heq

/-- A client asks first. -/
theorem ensureUser_eq (credential : Credential) : (ensureUser credential : Client) =
    .call (infoRequest credential.authDatabase credential.user) (afterInfo credential) := by
  refine congrArg (Program.call _) (funext fun answer => ?_)
  cases answer with
  | error failure => rfl
  | ok reply => rfl

theorem afterInfo_of_nil {reply : Document} (h : reply.get? "users" = some (.array [])) :
    afterInfo credential (.ok reply) =
      .call (creationRequest credential) (afterCreation credential) := by
  have hnobody : ¬ listsUser reply = true := by
    rw [listsUser, h]
    exact Bool.false_ne_true
  exact if_neg hnobody

theorem afterInfo_of_ne_nil {reply : Document} {users : List Document.Value}
    (h : reply.get? "users" = some (.array users)) (hne : users ≠ []) :
    FindsMet (afterInfo credential (.ok reply)) := by
  have hlists : listsUser reply = true := by
    rw [listsUser, h]
    cases users with
    | nil => exact absurd rfl hne
    | cons first rest => rfl
  exact ⟨_, if_pos hlists⟩

theorem applies_afterCreation (reply : Document) :
    Applies (afterCreation credential (.ok reply)) :=
  ⟨_, rfl⟩

/-- The refusal to create a user again is read as a goal met before. -/
theorem findsMet_afterCreation (codeName message : String) :
    FindsMet (afterCreation credential (.error (.command 51003 codeName message))) := by
  have hmet : ReadAsMet "ensure_user" (.command 51003 codeName message) := ⟨51003, rfl, .inl rfl⟩
  have hread := classify_of_readAsMet credential.user rfl hmet
  exact ⟨_, congrArg Program.done hread⟩

end Client

/-! ### All clients -/

/-- What holds after every request: how far the clients have come, and what they know. -/
structure Settling {σ : Type} (held : σ → Option Credential) {n : Nat}
    (clients : Fin n → Credential) (initial : Option Credential)
    (log : List (Fin n × Step Request Request.Answer Empty))
    (c : Scene (Fin n) Request Request.Answer Empty σ (Except Error Outcome)) : Prop where
  stage : ∀ i, Stage (clients i) (c.rest i) (stepsOf i log)
  applied : ∀ i, Applies (c.rest i) → initial = none ∧ held c.state = some (clients i) ∧
    ∀ j, Applies (c.rest j) → j = i
  present : ∀ i, FindsMet (c.rest i) → held c.state ≠ none
  /-- The user changes by the request of a client that says so. -/
  kept : (∀ i, ¬ Applies (c.rest i)) → held c.state = initial

section Race

variable {σ : Type} {cluster : Cluster σ} {database user : String}
  {held : σ → Option Credential} {n : Nat} {clients : Fin n → Credential}
  {initial : Option Credential} {log : List (Fin n × Step Request Request.Answer Empty)}
  {c d : Scene (Fin n) Request Request.Answer Empty σ (Except Error Outcome)} {i : Fin n}
  {step : Step Request Request.Answer Empty} {steps : List (Step Request Request.Answer Empty)}

/-- The stages after a step of one client. -/
theorem Settling.stage_step (h : Settling held clients initial log c) {client : Client}
    (hsteps : stepsOf i log = steps) (hstage : Stage (clients i) client (steps ++ [step]))
    (j : Fin n) :
    Stage (clients j) (Function.update c.rest i client j) (stepsOf j (log ++ [(i, step)])) := by
  by_cases hj : j = i
  · subst hj
    rw [Function.update_self, stepsOf_concat_self, hsteps]
    exact hstage
  · rw [Function.update_of_ne hj, stepsOf_concat_of_ne (Ne.symm hj)]
    exact h.stage j

/-- A step that leaves the user alone. -/
theorem Settling.leave (h : Settling held clients initial log c)
    (hbefore : ¬ Applies (c.rest i)) {client : Client} {t : σ} (hsteps : stepsOf i log = steps)
    (hstage : Stage (clients i) client (steps ++ [step])) (hafter : ¬ Applies client)
    (hpresent : FindsMet client → held c.state ≠ none) (hheld : held t = held c.state) :
    Settling held clients initial (log ++ [(i, step)])
      ⟨Function.update c.rest i client, t⟩ := by
  -- the clients that created the user are those of before
  have happlies (j : Fin n) :
      Applies (Function.update c.rest i client j) ↔ Applies (c.rest j) := by
    by_cases hj : j = i
    · subst hj
      rw [Function.update_self]
      exact iff_of_false hafter hbefore
    · rw [Function.update_of_ne hj]
  have hfound (j : Fin n) (hj : FindsMet (Function.update c.rest i client j)) :
      held c.state ≠ none := by
    by_cases heq : j = i
    · subst heq
      rw [Function.update_self] at hj
      exact hpresent hj
    · rw [Function.update_of_ne heq] at hj
      exact h.present j hj
  refine ⟨h.stage_step hsteps hstage, fun j hj => ?_, fun j hj => ?_, fun hnone => ?_⟩
  · obtain ⟨hinitial, hstored, hunique⟩ := h.applied j ((happlies j).1 hj)
    exact ⟨hinitial, hheld.trans hstored, fun k hk => hunique k ((happlies k).1 hk)⟩
  · rw [hheld]
    exact hfound j hj
  · exact hheld.trans (h.kept fun j hj => hnone j ((happlies j).2 hj))

/-- The step that creates the user. -/
theorem Settling.create (h : Settling held clients initial log c) {client : Client} {t : σ}
    (hsteps : stepsOf i log = steps) (hstage : Stage (clients i) client (steps ++ [step]))
    (hafter : Applies client) (habsent : held c.state = none) (hheld : held t = some (clients i)) :
    Settling held clients initial (log ++ [(i, step)])
      ⟨Function.update c.rest i client, t⟩ := by
  -- nobody created it before, for then it would be there
  have hnone (j : Fin n) : ¬ Applies (c.rest j) := by
    intro hj
    obtain ⟨-, hstored, -⟩ := h.applied j hj
    exact Option.some_ne_none _ (hstored.symm.trans habsent)
  have honly (j : Fin n) (hj : Applies (Function.update c.rest i client j)) : j = i := by
    by_contra hne
    rw [Function.update_of_ne hne] at hj
    exact hnone j hj
  refine ⟨h.stage_step hsteps hstage, fun j hj => ?_, fun j _ => ?_, fun hall => ?_⟩
  · obtain rfl := honly j hj
    exact ⟨(h.kept hnone).symm.trans habsent, hheld, honly⟩
  · rw [hheld]
    exact Option.some_ne_none _
  · have hi : Applies (Function.update c.rest i client i) := by rwa [Function.update_self]
    exact absurd hi (hall i)

/-- A client has its answer about the user. -/
theorem Settling.asked (hcluster : KeepsUser cluster database user held)
    (h : Settling held clients initial log c)
    (hclient : (clients i).user = user ∧ (clients i).authDatabase = database)
    (hrest : c.rest i = ensureUser (clients i)) (hsteps : stepsOf i log = [])
    (hstep : Advances cluster c i step d) :
    Settling held clients initial (log ++ [(i, step)]) d := by
  obtain ⟨reply, users, t, hreply, hheld, hlist, hnobody⟩ := hcluster.listed c.state
  rw [← hclient.1, ← hclient.2] at hreply
  rw [ensureUser_eq] at hrest
  obtain ⟨rfl, rfl⟩ := hstep.of_call hrest
  have hbefore : ¬ Applies (c.rest i) := hrest ▸ not_applies_call
  rw [hreply]
  by_cases husers : users = []
  · -- nobody is listed, and the client goes on to create the user
    subst husers
    rw [afterInfo_of_nil hlist]
    exact h.leave hbefore hsteps (.creating reply hlist) not_applies_call
      (fun hfinds => absurd hfinds not_findsMet_call) hheld
  · -- the user is there, and the client is done
    obtain ⟨note, hdone⟩ : FindsMet (afterInfo (clients i) (.ok reply)) :=
      afterInfo_of_ne_nil hlist husers
    have hpresent : held c.state ≠ none := fun hnone => husers (hnobody.2 hnone)
    rw [hdone]
    exact h.leave hbefore hsteps (.listed note (.ok reply))
      (fun happlies => not_findsMet_of_applies happlies ⟨note, rfl⟩) (fun _ => hpresent) hheld

/-- A client has its answer about the creation. -/
theorem Settling.created (hcluster : KeepsUser cluster database user held)
    (h : Settling held clients initial log c)
    (hclient : (clients i).user = user ∧ (clients i).authDatabase = database) {reply : Document}
    (hlist : reply.get? "users" = some (.array []))
    (hrest : c.rest i = .call (creationRequest (clients i)) (afterCreation (clients i)))
    (hsteps : stepsOf i log =
      [.called (infoRequest (clients i).authDatabase (clients i).user) (.ok reply)])
    (hstep : Advances cluster c i step d) :
    Settling held clients initial (log ++ [(i, step)]) d := by
  obtain ⟨rfl, rfl⟩ := hstep.of_call hrest
  have hbefore : ¬ Applies (c.rest i) := hrest ▸ not_applies_call
  by_cases habsent : held c.state = none
  · obtain ⟨created, t, hcreated, hheld⟩ :=
      hcluster.added c.state (clients i) hclient.1 hclient.2 habsent
    rw [hcreated]
    have happlies : Applies (afterCreation (clients i) (.ok created)) :=
      applies_afterCreation created
    exact h.create hsteps (.settled _ reply (.ok created) (.inl happlies) hlist) happlies habsent
      hheld
  · -- another client was faster
    obtain ⟨codeName, message, t, hrefused, hheld⟩ :=
      hcluster.present c.state (clients i) hclient.1 hclient.2 habsent
    rw [hrefused]
    have hfinds : FindsMet
        (afterCreation (clients i) (.error (.command 51003 codeName message))) :=
      findsMet_afterCreation codeName message
    exact h.leave hbefore hsteps (.settled _ reply _ (.inr hfinds) hlist)
      (fun happlies => not_findsMet_of_applies happlies hfinds) (fun _ => habsent) hheld

/-- **One request** of any client. -/
theorem Settling.advance (hcluster : KeepsUser cluster database user held)
    (hclients : ∀ i, (clients i).user = user ∧ (clients i).authDatabase = database)
    (h : Settling held clients initial log c) (hstep : Advances cluster c i step d) :
    Settling held clients initial (log ++ [(i, step)]) d := by
  have hstage := h.stage i
  generalize hrest : c.rest i = client at hstage
  generalize hsteps : stepsOf i log = steps at hstage
  cases hstage with
  | asking => exact h.asked hcluster (hclients i) hrest hsteps hstep
  | creating reply hlist => exact h.created hcluster (hclients i) hlist hrest hsteps hstep
  | listed note answer => exact absurd hstep (not_advances_of_done hrest)
  | settled client reply answer hclient hlist =>
    rcases hclient with ⟨note, rfl⟩ | ⟨note, rfl⟩
    · exact absurd hstep (not_advances_of_done hrest)
    · exact absurd hstep (not_advances_of_done hrest)

/-- Clients that have yet to ask. -/
def waiting (databases : Fin n → String) (clients : Fin n → Credential) (s : σ) :
    Scene (Fin n) Request Request.Answer Empty σ (Except Error Outcome) :=
  ⟨fun i => perform (databases i) (.ensureUser (clients i)), s⟩

/-- **Every order of the requests.** -/
theorem settling_of_interleaved (hcluster : KeepsUser cluster database user held)
    (hclients : ∀ i, (clients i).user = user ∧ (clients i).authDatabase = database)
    (databases : Fin n → String) (s : σ)
    (hrun : Interleaved cluster (waiting databases clients s) log d) :
    Settling held clients (held s) log d := by
  induction hrun with
  | refl =>
    -- nobody is done before the first request
    have hrest (i : Fin n) : (waiting databases clients s).rest i =
        .call (infoRequest (clients i).authDatabase (clients i).user) (afterInfo (clients i)) :=
      ensureUser_eq (clients i)
    refine ⟨fun i => .asking, fun i hi => ?_, fun i hi => ?_, fun _ => rfl⟩
    · rw [hrest] at hi
      exact absurd hi not_applies_call
    · rw [hrest] at hi
      exact absurd hi not_findsMet_call
  | tail before hstep ih => exact ih.advance hcluster hclients hstep

end Race

/-- How clients leave the user, when they are done. -/
structure Agreed {n : Nat} (clients : Fin n → Credential) (initial final : Option Credential)
    (results : Fin n → Client) : Prop where
  isOk : ∀ i, ∃ outcome, results i = .done (.ok outcome)
  /-- A user that was not there is created by exactly one client, if there are any. -/
  one : initial = none → 0 < n → ∃! i, Applies (results i)
  none : initial ≠ none → ∀ i, ¬ Applies (results i)
  /-- What is there in the end is what that client asked for; without such a client it is what was
  there in the beginning. -/
  stored : ∀ i, Applies (results i) → final = some (clients i)
  kept : (∀ i, ¬ Applies (results i)) → final = initial

/-- Where no client has anything left to send, they agree. -/
theorem Settling.agreed {σ : Type} {cluster : Cluster σ} {held : σ → Option Credential} {n : Nat}
    {clients : Fin n → Credential} {initial : Option Credential}
    {log : List (Fin n × Step Request Request.Answer Empty)}
    {c : Scene (Fin n) Request Request.Answer Empty σ (Except Error Outcome)}
    (h : Settling held clients initial log c)
    (hstuck : ∀ i step d, ¬ Advances cluster c i step d) :
    Agreed clients initial (held c.state) c.rest := by
  have houtcome (i : Fin n) : Applies (c.rest i) ∨ FindsMet (c.rest i) := by
    obtain ⟨value, hdone⟩ := done_of_stuck hstuck i
    exact (h.stage i).outcome hdone
  refine ⟨fun i => ?_, fun hinitial hpos => ?_, fun hinitial i hi => ?_,
    fun i hi => (h.applied i hi).2.1, h.kept⟩
  · rcases houtcome i with ⟨note, hdone⟩ | ⟨note, hdone⟩
    · exact ⟨_, hdone⟩
    · exact ⟨_, hdone⟩
  · have hsome : ∃ i, Applies (c.rest i) := by
      by_contra hnone
      rw [not_exists] at hnone
      -- then the first client found a user that nobody created
      have hfinds : FindsMet (c.rest ⟨0, hpos⟩) := (houtcome _).resolve_left (hnone _)
      exact h.present _ hfinds ((h.kept hnone).trans hinitial)
    obtain ⟨i, hi⟩ := hsome
    exact ⟨i, hi, (h.applied i hi).2.2⟩
  · exact hinitial (h.applied i hi).1

/-- **Clients that make sure of the same user agree**, whatever their number and the order of their
requests.  None sends more than its question and, where nobody was listed, one creation; when none
has anything left to send all of them ended well, a user that was not there was created by exactly
one of them, with the credential of that one, and a user that was there is as it was. -/
theorem agreed_of_interleaved {σ : Type} {cluster : Cluster σ} {database user : String}
    {held : σ → Option Credential} (hcluster : KeepsUser cluster database user held) {n : Nat}
    (databases : Fin n → String) (clients : Fin n → Credential)
    (hclients : ∀ i, (clients i).user = user ∧ (clients i).authDatabase = database) (s : σ)
    {log : List (Fin n × Step Request Request.Answer Empty)}
    {d : Scene (Fin n) Request Request.Answer Empty σ (Except Error Outcome)}
    (hrun : Interleaved cluster (waiting databases clients s) log d) :
    (∀ i, Conduct (clients i) (stepsOf i log)) ∧ log.length ≤ n * 2 ∧
      ((∀ i step e, ¬ Advances cluster d i step e) →
        Agreed clients (held s) (held d.state) d.rest) := by
  have hsettling := settling_of_interleaved hcluster hclients databases s hrun
  have hconduct (i : Fin n) : Conduct (clients i) (stepsOf i log) := (hsettling.stage i).conduct
  have hlength : log.length ≤ Fintype.card (Fin n) * 2 :=
    length_le_of_stepsOf fun i => (hconduct i).length_le
  rw [Fintype.card_fin] at hlength
  exact ⟨hconduct, hlength, hsettling.agreed⟩

/-- A cluster that keeps the credentials of its users, by database and name. -/
def userCluster : Cluster (NameMap Credential) := fun request users =>
  match request with
  | .reach _ => (.ok (), users)
  | .create .. => (.ok (), users)
  | .command database document => administer database document users
  | .deleteAll _ => (.ok 0, users)
  | .insert .. => (.ok (), users)
  | .createIndex .. => (.ok (), users)
  | .count _ => (.ok 0, users)
  | .listIndexes _ => (.ok [], users)
  | .aggregate .. => (.ok [], users)
  | .shutdown => ((), users)
where
  /-- Lists or creates a user, if that is what is asked for. -/
  administer (database : String) (document : Document) (users : NameMap Credential) :
      Except Failure Document × NameMap Credential :=
    match document.get? "usersInfo", document.get? "createUser", document.get? "pwd",
      document.get? "roles" with
    | some (.text user), _, _, _ =>
      let listed := (users.get? (database ++ "." ++ user)).toList.map fun held =>
        Document.Value.single "user" held.user
      (.ok [("users", .array listed), ("ok", 1)], users)
    | none, some (.text user), some (.text password),
        some (.array [.document ((_, .text role) :: _)]) =>
      match users.get? (database ++ "." ++ user) with
      | some _ =>
        (.error (.command 51003 "Location51003" ("User \"" ++ user ++ "\" already exists")), users)
      | none =>
        (.ok [("ok", 1)],
          users.insert (database ++ "." ++ user) ⟨user, password, role, database⟩)
    | _, _, _, _ => (.ok [("ok", 1)], users)

theorem keepsUser_userCluster (database user : String) :
    KeepsUser userCluster database user fun users => users.get? (database ++ "." ++ user) := by
  have hcreation (credential : Credential) (users : NameMap Credential) :
      userCluster (creationRequest credential) users =
        match users.get? (credential.authDatabase ++ "." ++ credential.user) with
        | some _ =>
          (.error (.command 51003 "Location51003"
            ("User \"" ++ credential.user ++ "\" already exists")), users)
        | none =>
          (.ok [("ok", 1)],
            users.insert (credential.authDatabase ++ "." ++ credential.user) credential) := rfl
  constructor
  · intro users
    refine ⟨_, _, _, rfl, rfl, rfl, ?_⟩
    cases users.get? (database ++ "." ++ user) <;> simp
  · rintro users credential rfl rfl habsent
    rw [hcreation, habsent]
    exact ⟨_, _, rfl, NameMap.get?_insert_self ..⟩
  · rintro users credential rfl rfl hpresent
    obtain ⟨held, hheld⟩ := Option.ne_none_iff_exists'.1 hpresent
    rw [hcreation, hheld]
    exact ⟨_, _, _, rfl, hheld⟩

/-- Two administrators of the same name. -/
def rivals (i : Fin 2) : Credential :=
  if i = 0 then ⟨"admin", "first", "root", "admin"⟩ else ⟨"admin", "second", "backup", "admin"⟩

/-- Both ask before either creates the user; the second is faster, and the first is told that the
user is there. -/
theorem agreed_of_interleaved_rivals :
    ∃ log d, Interleaved userCluster (waiting (fun _ => "weather") rivals .empty) log d ∧
      log.map Prod.fst = [0, 1, 1, 0] ∧ Agreed rivals none (some (rivals 1)) d.rest := by
  have hfirst : Interleaved userCluster (waiting (fun _ => "weather") rivals .empty) [(0, _)] _ :=
    .tail .refl (.call rfl)
  have hsecond := hfirst.trans (interleaved_run (i := 1) rfl)
  have hrun := hsecond.tail (Advances.call (i := 0) rfl)
  refine ⟨_, _, hrun, rfl, ?_⟩
  obtain ⟨-, -, hagreed⟩ := agreed_of_interleaved (keepsUser_userCluster "admin" "admin")
    (fun _ => "weather") rivals (by decide) .empty hrun
  exact hagreed (Fin.forall_fin_two.2
    ⟨fun step e => not_advances_of_done rfl, fun step e => not_advances_of_done rfl⟩)

end Remote

end BulkProvision
