import EvalForge.Api.History

/-! # Revocation

A logout, a change of the password and the revocation of an API key end
credentials. What they end gives no request a principal in any later state.
-/

namespace EvalForge

open Foundation

/-! ## Sessions are keyed -/

def Database.SessionsKeyed (db : Database) : Prop :=
  Keyed AuthSession.conflicts db.authSessions

theorem Database.SessionsKeyed.apply {db next : Database} {write : Write}
    (keyed : db.SessionsKeyed) (applied : db.apply write = some next) : next.SessionsKeyed := by
  cases kind : write.onIdentity with
  | false =>
      have sessions := congrArg Database.authSessions (apply_onTenant kind applied)
      have same : next.authSessions = db.authSessions := sessions
      unfold SessionsKeyed
      rw [same]
      exact keyed
  | true =>
      cases write with
      | insertAuthSession row =>
          rcases apply_insertAuthSession applied with ⟨-, free, rfl⟩
          exact Keyed.insert keyed free
      | revokeSession sessionId revokedAt =>
          cases applied
          exact Keyed.update keyed fun _ _ => ⟨rfl, rfl⟩
      | insertOrganization row =>
          rcases apply_insertOrganization applied with ⟨-, rfl⟩
          exact keyed
      | insertUser row =>
          rcases apply_insertUser applied with ⟨-, rfl⟩
          exact keyed
      | insertMembership row =>
          rcases apply_insertMembership applied with ⟨-, -, rfl⟩
          exact keyed
      | insertApiKey row =>
          rcases apply_insertApiKey applied with ⟨-, -, rfl⟩
          exact keyed
      | setLockout | setPasswordHash | setRole | deleteMembership | touchApiKey | revokeApiKey =>
          cases applied
          exact keyed
      | _ => cases kind

theorem Database.SessionsKeyed.commit {db next : Database} {writes : List Write}
    (keyed : db.SessionsKeyed) (committed : db.commit writes = some next) : next.SessionsKeyed :=
  commit_keeps Database.SessionsKeyed (fun _ => True)
    (fun _ _ _ _ kept applied => kept.apply applied) (fun _ _ => trivial) keyed committed

theorem Database.SessionsKeyed.begins {db : Database} (keyed : db.SessionsKeyed) (call : Call) :
    (call.begins db).SessionsKeyed :=
  settle_keeps Database.SessionsKeyed keyed fun _ committed => keyed.commit committed

theorem Database.Reachable.sessionsKeyed {db : Database} (reachable : db.Reachable) :
    db.SessionsKeyed :=
  reachable.keeps Database.SessionsKeyed (fun keyed committed => keyed.commit committed)
    fun _ => keyed_nil

/-! ## The credential of a principal -/

inductive TokenOf (credentials : Credentials) (checkedAt : Nat) (db : Database) (token : String) :
    Principal → Prop
  | session (authSession : AuthSession) (membership : Membership)
      (found : db.authSessions.find? (·.tokenHash == credentials.hashToken token) =
        some authSession)
      (unrevoked : authSession.revokedAt = none)
      (unexpired : checkedAt < authSession.expiresAt)
      (active : activeMembership db authSession.userId authSession.organizationId =
        some membership) :
      TokenOf credentials checkedAt db token {
        userId := some authSession.userId
        organizationId := authSession.organizationId
        role := membership.role
        authenticationType := .session
        sessionId := some authSession.id }
  | apiKey (apiKey : PersonalApiKey) (membership : Membership)
      (noSession : db.authSessions.find? (·.tokenHash == credentials.hashToken token) = none)
      (found : db.personalApiKeys.find? (·.tokenHash == credentials.hashToken token) = some apiKey)
      (unrevoked : apiKey.revokedAt = none)
      (unexpired : isExpired checkedAt apiKey.expiresAt = false)
      (active : activeMembership db apiKey.userId apiKey.organizationId = some membership) :
      TokenOf credentials checkedAt db token {
        userId := some apiKey.userId
        organizationId := apiKey.organizationId
        role := membership.role
        authenticationType := .personalApiKey
        apiKeyId := some apiKey.id }

theorem isExpired_some {now value : Nat} : isExpired now (some value) = false ↔ now < value := by
  simp [isExpired]

theorem tokenOf_of_authenticated {credentials : Credentials} {checkedAt usedAt : Nat}
    {db : Database} {token : String} {writes : List Write} {principal : Principal}
    (authenticated : authenticateOpaqueToken credentials checkedAt usedAt db token =
      some (writes, principal)) :
    TokenOf credentials checkedAt db token principal := by
  simp only [authenticateOpaqueToken] at authenticated
  split at authenticated
  · next authSession found =>
      split at authenticated
      · cases authenticated
      · next valid =>
          simp only [ne_eq, not_or, not_not, Bool.not_eq_true, isExpired_some] at valid
          split at authenticated
          · cases authenticated
          · next membership active =>
              cases authenticated
              exact .session authSession membership found valid.1 valid.2 active
  · next noSession =>
      split at authenticated
      · cases authenticated
      · next apiKey found =>
          split at authenticated
          · cases authenticated
          · next valid =>
              simp only [ne_eq, not_or, not_not, Bool.not_eq_true] at valid
              split at authenticated
              · cases authenticated
              · next membership active =>
                  cases authenticated
                  exact .apiKey apiKey membership noSession found valid.1 valid.2 active

theorem eq_some_of_truthy {text : Option String} {value : String}
    (found : truthy text = some value) : text = some value :=
  (Option.filter_eq_some_iff.mp found).1

theorem Call.principal?_cases {call : Call} {db : Database} {principal : Principal}
    (found : call.principal? db = some principal) :
    (∃ authenticationType, principal = systemPrincipal authenticationType ∧
      ∀ token, call.headers.suppliedKey = some token →
        call.deployment.settings.apiKey = some token) ∨
      ∃ token, call.headers.suppliedKey = some token ∧
        TokenOf call.deployment.credentials call.readings.checkedAt db token principal := by
  have authenticated := (call.principal?_eq_some found).1
  simp only [Call.authenticate, getCurrentPrincipal] at authenticated
  split at authenticated
  · next token supplied =>
      split at authenticated
      · cases authenticated
      · next matched =>
          cases authenticated
          refine .inl ⟨.systemApiKey, rfl, fun other suppliedOther => ?_⟩
          cases supplied.symm.trans suppliedOther
          split at matched
          · next apiKey configured =>
              rw [eq_some_of_truthy configured, compareDigest_eq_some_true matched]
          · cases matched
      · split at authenticated
        · next opaqueToken =>
            cases authenticated
            exact .inr ⟨token, supplied, tokenOf_of_authenticated opaqueToken⟩
        · cases authenticated
  · next anonymous =>
      split at authenticated
      · cases authenticated
        refine .inl ⟨.development, rfl, fun token supplied => ?_⟩
        cases anonymous.symm.trans supplied
      · cases authenticated

/-! ## Revoked credentials -/

section

variable {db next later : Database} {call : Call} {principal : Principal}

theorem AuthSession.conflicts_of_id {left right : AuthSession} (same : left.id = right.id) :
    left.conflicts right = true ∧ right.conflicts left = true := by
  simp [AuthSession.conflicts, same]

theorem PersonalApiKey.conflicts_of_id {left right : PersonalApiKey} (same : left.id = right.id) :
    left.conflicts right = true ∧ right.conflicts left = true := by
  simp [PersonalApiKey.conflicts, same]

/-- The token of a revoked session, under its id. -/
def Database.SessionEnded (db : Database) (authSession : AuthSession) : Prop :=
  ∃ stored ∈ db.authSessions, stored.id = authSession.id ∧
    stored.tokenHash = authSession.tokenHash ∧ stored.revokedAt ≠ none

def Database.ApiKeyEnded (db : Database) (apiKeyId : String) : Prop :=
  ∃ apiKey ∈ db.personalApiKeys, apiKey.id = apiKeyId ∧ apiKey.revokedAt ≠ none

structure Database.RefusesSession (db : Database) (authSession : AuthSession) : Prop where
  principal : ∀ (call : Call) (principal : Principal), call.principal? db = some principal →
    principal.sessionId ≠ some authSession.id
  token : ∀ (call : Call) (token : String), call.headers.suppliedKey = some token →
    call.deployment.credentials.hashToken token = authSession.tokenHash →
    call.deployment.settings.apiKey ≠ some token → call.principal? db = none

def Database.RefusesApiKey (db : Database) (apiKeyId : String) : Prop :=
  ∀ (call : Call) (principal : Principal), call.principal? db = some principal →
    principal.apiKeyId ≠ some apiKeyId

theorem Database.SessionEnded.refuses {authSession : AuthSession} (keyed : db.SessionsKeyed)
    (ended : db.SessionEnded authSession) : db.RefusesSession authSession := by
  rcases ended with ⟨stored, member, sameId, sameHash, revoked⟩
  constructor
  · intro call principal found ofPrincipal
    rcases call.principal?_cases found with ⟨_, rfl, -⟩ | ⟨token, -, tokenOf⟩
    · cases ofPrincipal
    · cases tokenOf with
      | session other membership stands unrevoked unexpired active =>
          have conflicts :=
            AuthSession.conflicts_of_id ((Option.some.inj ofPrincipal).trans sameId.symm)
          rw [Keyed.eq_of_conflicts keyed (List.mem_of_find?_eq_some stands) member conflicts.1
            conflicts.2] at unrevoked
          exact revoked unrevoked
      | apiKey => cases ofPrincipal
  · intro call token supplied hashed notSystem
    have stands : db.authSessions.find?
        (·.tokenHash == call.deployment.credentials.hashToken token) = some stored := by
      refine Keyed.find?_eq_some keyed member (by simp [hashed, sameHash]) fun other chosen => ?_
      have same : other.tokenHash = stored.tokenHash := by
        rw [beq_iff_eq.mp chosen, hashed, sameHash]
      simp [AuthSession.conflicts, same]
    rw [Option.eq_none_iff_forall_ne_some]
    intro principal found
    rcases call.principal?_cases found with ⟨_, -, system⟩ | ⟨other, suppliedOther, tokenOf⟩
    · exact notSystem (system token supplied)
    · cases supplied.symm.trans suppliedOther
      cases tokenOf with
      | session other membership standsOther unrevoked =>
          cases stands.symm.trans standsOther
          exact revoked unrevoked
      | apiKey other membership noSession =>
          cases stands.symm.trans noSession

theorem Database.ApiKeyEnded.refuses {apiKeyId : String}
    (keyed : Keyed PersonalApiKey.conflicts db.personalApiKeys) (ended : db.ApiKeyEnded apiKeyId) :
    db.RefusesApiKey apiKeyId := by
  rcases ended with ⟨stored, member, rfl, revoked⟩
  intro call principal found ofPrincipal
  rcases call.principal?_cases found with ⟨_, rfl, -⟩ | ⟨token, -, tokenOf⟩
  · cases ofPrincipal
  · cases tokenOf with
    | session => cases ofPrincipal
    | apiKey other membership noSession stands unrevoked unexpired active =>
        have conflicts := PersonalApiKey.conflicts_of_id (Option.some.inj ofPrincipal)
        rw [keyed.eq_of_conflicts (List.mem_of_find?_eq_some stands) member conflicts.1
          conflicts.2] at unrevoked
        exact revoked unrevoked

theorem Database.SessionEnded.persists {authSession : AuthSession}
    (ended : db.SessionEnded authSession) (kept : db.Precedes later) :
    later.SessionEnded authSession := by
  rcases ended with ⟨stored, member, sameId, sameHash, revoked⟩
  rcases kept.authSessions.exists_mem member with ⟨_, laterMember, _, stays, rfl⟩
  exact ⟨_, laterMember, sameId, sameHash, stays revoked⟩

theorem Database.SessionEnded.of_precedes {authSession stored : AuthSession}
    (kept : authSession.Precedes stored) (ended : db.SessionEnded stored) :
    db.SessionEnded authSession := by
  rcases kept with ⟨_, -, rfl⟩
  exact ended

theorem Database.ApiKeyEnded.persists {apiKeyId : String} (ended : db.ApiKeyEnded apiKeyId)
    (kept : db.Precedes later) : later.ApiKeyEnded apiKeyId := by
  rcases ended with ⟨apiKey, member, sameId, revoked⟩
  rcases kept.personalApiKeys.exists_mem member with ⟨_, laterMember, _, _, stays, rfl⟩
  exact ⟨_, laterMember, sameId, stays revoked⟩

/-! ## Requests that revoke -/

theorem sessionEnded_of_commit {writes : List Write} {authSession : AuthSession} {revokedAt : Nat}
    (committed : db.commit writes = some next)
    (revokes : Write.revokeSession authSession.id revokedAt ∈ writes)
    (member : authSession ∈ db.authSessions) : next.SessionEnded authSession := by
  rcases List.append_of_mem revokes with ⟨before, after, rfl⟩
  rw [Database.commit_append] at committed
  rcases Option.bind_eq_some_iff.mp committed with ⟨middle, first, second⟩
  rcases commit_cons second with ⟨revoked, applied, rest⟩
  rcases (Database.Precedes.of_commit first).authSessions.exists_mem member with
    ⟨stored, storedMember, _, -, rfl⟩
  cases applied
  refine Database.SessionEnded.persists ?_ (.of_commit rest)
  refine ⟨_, mem_updateWhere.mpr ⟨_, storedMember, rfl⟩, ?_⟩
  simp

theorem apiKeyEnded_of_commit {writes : List Write} {apiKeyId : String} {revokedAt : Nat}
    (committed : db.commit writes = some next)
    (revokes : Write.revokeApiKey apiKeyId revokedAt ∈ writes) {apiKey : PersonalApiKey}
    (member : apiKey ∈ db.personalApiKeys) (ofId : apiKey.id = apiKeyId) :
    next.ApiKeyEnded apiKeyId := by
  rcases List.append_of_mem revokes with ⟨before, after, rfl⟩
  rw [Database.commit_append] at committed
  rcases Option.bind_eq_some_iff.mp committed with ⟨middle, first, second⟩
  rcases commit_cons second with ⟨revoked, applied, rest⟩
  rcases (Database.Precedes.of_commit first).personalApiKeys.exists_mem member with
    ⟨stored, storedMember, _, _, -, rfl⟩
  cases applied
  refine Database.ApiKeyEnded.persists ?_ (.of_commit rest)
  refine ⟨_, mem_updateWhere.mpr ⟨_, storedMember, rfl⟩, ?_⟩
  simp [ofId]

theorem Call.begins_precedes (call : Call) (db : Database) : db.Precedes (call.begins db) :=
  .of_settle db _

theorem logout_ends {readings : RequestReadings} (keyed : db.SessionsKeyed)
    {authSession : AuthSession} (member : authSession ∈ db.authSessions)
    (ofPrincipal : principal.sessionId = some authSession.id)
    (committed : db.commit (logout readings db principal).writes = some next) :
    next.SessionEnded authSession := by
  have stands : db.authSessions.find? (·.id == authSession.id) = some authSession :=
    Keyed.find?_eq_some keyed member (by simp) fun other chosen =>
      AuthSession.conflicts_of_id (beq_iff_eq.mp chosen)
  simp only [logout, ofPrincipal, Option.bind_some, stands] at committed
  split at committed
  · exact sessionEnded_of_commit committed List.mem_cons_self member
  · next revoked =>
      cases committed
      exact ⟨authSession, member, rfl, rfl, revoked⟩

theorem requireUser_ok {user : User} (required : requireUser db principal = .ok user) :
    principal.userId = some user.id ∧ db.user? user.id = some user ∧ user.status = .active := by
  unfold requireUser at required
  split at required
  · cases required
  · next userId ofPrincipal =>
      split at required
      · next stored found =>
          split at required
          · next active =>
              cases required
              have same : user.id = userId := by simpa using List.find?_some found
              rw [same]
              exact ⟨ofPrincipal, found, active⟩
          · cases required
      · cases required

theorem changePassword_revokes {context : BootstrapContext} {readings : RequestReadings}
    {payload : PasswordChange} {authSession : AuthSession}
    (changed : (changePassword context readings db principal payload).answer = .ok ())
    (member : authSession ∈ db.authSessions)
    (ofUser : principal.userId = some authSession.userId)
    (other : principal.sessionId ≠ some authSession.id) (unrevoked : authSession.revokedAt = none) :
    .revokeSession authSession.id (readings.utcNow 0) ∈
      (changePassword context readings db principal payload).writes := by
  have accepted := Reply.ofExcept_ok changed
  rcases bind_eq_ok_iff.mp accepted with ⟨user, required, accepted⟩
  have sameUser : authSession.userId = user.id :=
    Option.some.inj (ofUser.symm.trans (requireUser_ok required).1)
  have otherSession : (truthy principal.sessionId != some authSession.id) = true := by
    rw [bne_iff_ne]
    exact fun own => other (eq_some_of_truthy own)
  simp only [] at accepted
  split at accepted
  · cases accepted
  · have revoked : Write.revokeSession authSession.id (readings.utcNow 0) ∈
        (db.authSessions.filter fun stored => stored.userId == user.id &&
          stored.revokedAt.isNone && truthy principal.sessionId != some stored.id).map
          fun stored => .revokeSession stored.id (readings.utcNow 0) := by
      refine List.mem_map.mpr ⟨authSession, List.mem_filter.mpr ⟨member, ?_⟩, rfl⟩
      simp [sameUser, unrevoked, otherSession]
    have written : (changePassword context readings db principal payload).writes =
        .setPasswordHash user.id (context.hashPassword payload.newPassword readings.salt) ::
          (db.authSessions.filter fun stored => stored.userId == user.id &&
            stored.revokedAt.isNone && truthy principal.sessionId != some stored.id).map
            fun stored => .revokeSession stored.id (readings.utcNow 0) :=
      (congrArg Prod.fst (Except.ok.inj accepted)).symm
    rw [written]
    exact List.mem_cons_of_mem _ revoked

theorem revokeApiKey_ends {readings : RequestReadings} {apiKeyId : String}
    (revoked : (revokeApiKey readings db principal apiKeyId).answer = .ok ())
    (committed : db.commit (revokeApiKey readings db principal apiKeyId).writes = some next) :
    next.ApiKeyEnded apiKeyId := by
  have accepted := Reply.ofExcept_ok revoked
  rcases bind_eq_ok_iff.mp accepted with ⟨user, -, accepted⟩
  simp only [] at accepted
  split at accepted
  · cases accepted
  · next apiKey found =>
      have member := (List.mem_filter.mp (List.mem_of_find?_eq_some found)).1
      have sameId : apiKey.id = apiKeyId := by simpa using List.find?_some found
      have written : (revokeApiKey readings db principal apiKeyId).writes =
          if apiKey.revokedAt = none then [.revokeApiKey apiKey.id (readings.utcNow 0)] else [] :=
        (congrArg Prod.fst (Except.ok.inj accepted)).symm
      rw [written] at committed
      split at committed
      · rw [sameId] at committed
        exact apiKeyEnded_of_commit committed List.mem_cons_self member sameId
      · next already =>
          cases committed
          exact ⟨apiKey, member, sameId, already⟩

end

/-! ## Every later state -/

/-- In every later state, no request is made by the session. -/
def StaysRefused (db : Database) (authSession : AuthSession) : Prop :=
  ∀ events later, run serverStep db events = some later → later.RefusesSession authSession

def ApiKeyStaysRefused (db : Database) (apiKeyId : String) : Prop :=
  ∀ events later, run serverStep db events = some later → later.RefusesApiKey apiKeyId

/-- What is revoked stays refused, and what a request revokes is refused from its
answer on. -/
structure RevocationStays (db : Database) : Prop where
  session : ∀ authSession ∈ db.authSessions, authSession.revokedAt ≠ none →
    StaysRefused db authSession
  apiKey : ∀ apiKey ∈ db.personalApiKeys, apiKey.revokedAt ≠ none →
    ApiKeyStaysRefused db apiKey.id
  logout : ∀ (call : Call) (principal : Principal) (authSession : AuthSession),
    (call.asking (.identity .logout)).principal? db = some principal →
    authSession ∈ db.authSessions → principal.sessionId = some authSession.id →
    ((call.asking (.identity .logout)).serve db).2 = .ok () →
    StaysRefused ((call.asking (.identity .logout)).serve db).1 authSession
  changePassword : ∀ (call : Call) (principal : Principal) payload (authSession : AuthSession),
    (call.asking (.identity (.changePassword payload))).principal? db = some principal →
    authSession ∈ db.authSessions → principal.userId = some authSession.userId →
    principal.sessionId ≠ some authSession.id →
    ((call.asking (.identity (.changePassword payload))).serve db).2 = .ok () →
    StaysRefused ((call.asking (.identity (.changePassword payload))).serve db).1 authSession
  revokeApiKey : ∀ (call : Call) apiKeyId,
    ((call.asking (.identity (.revokeApiKey apiKeyId))).serve db).2 = .ok () →
    ApiKeyStaysRefused ((call.asking (.identity (.revokeApiKey apiKeyId))).serve db).1 apiKeyId

section

variable {db : Database}

theorem Database.SessionEnded.stays {authSession : AuthSession} (reachable : db.Reachable)
    (ended : db.SessionEnded authSession) : StaysRefused db authSession := by
  intro events later ran
  exact (ended.persists (run_precedes ran)).refuses (reachable.run ran).sessionsKeyed

theorem Database.ApiKeyEnded.stays {apiKeyId : String} (reachable : db.Reachable)
    (ended : db.ApiKeyEnded apiKeyId) : ApiKeyStaysRefused db apiKeyId := by
  intro events later ran
  exact (ended.persists (run_precedes ran)).refuses (reachable.run ran).identityConsistent.apiKeys

theorem served_logout_ends {call : Call} {principal : Principal} {authSession : AuthSession}
    (reachable : db.Reachable)
    (found : (call.asking (.identity .logout)).principal? db = some principal)
    (member : authSession ∈ db.authSessions)
    (ofPrincipal : principal.sessionId = some authSession.id)
    (answered : ((call.asking (.identity .logout)).serve db).2 = .ok ()) :
    ((call.asking (.identity .logout)).serve db).1.SessionEnded authSession := by
  rcases Call.serve_ok answered with ⟨served, foundAgain, -, committed⟩
  cases found.symm.trans foundAgain
  have kept := (call.asking (.identity .logout)).begins_precedes db
  rcases kept.authSessions.exists_mem member with ⟨stored, storedMember, same⟩
  have sameId : stored.id = authSession.id := by
    rcases same with ⟨_, -, rfl⟩
    rfl
  have ended := logout_ends (reachable.sessionsKeyed.begins _) storedMember
    (by rw [ofPrincipal, sameId]) committed
  exact .of_precedes same ended

theorem served_changePassword_ends {call : Call} {principal : Principal}
    {payload : PasswordChange} {authSession : AuthSession}
    (found : (call.asking (.identity (.changePassword payload))).principal? db = some principal)
    (member : authSession ∈ db.authSessions)
    (ofUser : principal.userId = some authSession.userId)
    (other : principal.sessionId ≠ some authSession.id)
    (answered : ((call.asking (.identity (.changePassword payload))).serve db).2 = .ok ()) :
    ((call.asking (.identity (.changePassword payload))).serve db).1.SessionEnded
      authSession := by
  rcases Call.serve_ok answered with ⟨served, foundAgain, changed, committed⟩
  cases found.symm.trans foundAgain
  have kept := (call.asking (.identity (.changePassword payload))).begins_precedes db
  rcases kept.authSessions.exists_mem member with ⟨stored, storedMember, same⟩
  have sameColumns : stored.id = authSession.id ∧ stored.userId = authSession.userId := by
    rcases same with ⟨_, -, rfl⟩
    exact ⟨rfl, rfl⟩
  refine .of_precedes same ?_
  by_cases unrevoked : stored.revokedAt = none
  · have revokes := changePassword_revokes changed storedMember (by rw [ofUser, sameColumns.2])
      (by rw [sameColumns.1]; exact other) unrevoked
    exact sessionEnded_of_commit committed revokes storedMember
  · exact Database.SessionEnded.persists ⟨_, storedMember, rfl, rfl, unrevoked⟩
      (.of_commit committed)

/-- No run takes a revocation back. -/
theorem revocation_stays (reachable : db.Reachable) : RevocationStays db where
  session authSession member revoked :=
    Database.SessionEnded.stays reachable ⟨authSession, member, rfl, rfl, revoked⟩
  apiKey apiKey member revoked :=
    Database.ApiKeyEnded.stays reachable ⟨apiKey, member, rfl, revoked⟩
  logout call principal authSession found member ofPrincipal answered :=
    (served_logout_ends reachable found member ofPrincipal answered).stays (reachable.serve _)
  changePassword call principal payload authSession found member ofUser other answered :=
    (served_changePassword_ends found member ofUser other answered).stays (reachable.serve _)
  revokeApiKey call apiKeyId answered := by
    rcases Call.serve_ok answered with ⟨principal, -, revoked, committed⟩
    exact (revokeApiKey_ends revoked committed).stays (reachable.serve _)

end

namespace Scenario

def logoutCall : Call :=
  namedCall "logout" { xEvalforgeApiKey := some "efs_bob" } (.identity .logout)

end Scenario

theorem revocation_stays_scenario :
    (Scenario.logoutCall.principal? (Scenario.stateAfter Scenario.memberEvents)).isSome = true ∧
      RevocationStays (Scenario.stateAfter Scenario.memberEvents) :=
  ⟨rfl, revocation_stays ⟨0, Scenario.memberEvents, rfl⟩⟩

end EvalForge
