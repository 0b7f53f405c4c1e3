import EvalForge.Api.Revocation

/-! # Issued tokens

A login, a switch of the organization and the bootstrap answer with a token. A
request with it is made by the member it was issued to, until its session is
revoked or expires or the member is removed, and with the role that the member
has then.
-/

namespace EvalForge

open Foundation

/-! ## A request with a token -/

structure Call.Presents (call : Call) (credentials : Credentials) (token : String) : Prop where
  credentials : call.deployment.credentials = credentials
  supplied : call.headers.suppliedKey = some token
  unconfigured : ∀ apiKey, truthy call.deployment.settings.apiKey = some apiKey →
    compareDigest token apiKey = some false

def AuthSession.principal? (authSession : AuthSession) (db : Database) (checkedAt : Nat) :
    Option Principal :=
  if authSession.revokedAt = none ∧ checkedAt < authSession.expiresAt then
    (activeMembership db authSession.userId authSession.organizationId).map fun membership => {
      userId := some authSession.userId
      organizationId := authSession.organizationId
      role := membership.role
      authenticationType := .session
      sessionId := some authSession.id }
  else none

theorem getCurrentPrincipal_presented {call : Call} {credentials : Credentials} {token : String}
    (presents : call.Presents credentials token) (db : Database) :
    call.authenticate db =
      match authenticateOpaqueToken credentials call.readings.checkedAt call.readings.usedAt db
          token with
      | some (writes, principal) => { writes, answer := .ok principal }
      | none => { answer := .error authenticationError } := by
  rcases presents with ⟨rfl, supplied, unconfigured⟩
  simp only [Call.authenticate, getCurrentPrincipal, supplied]
  cases configured : truthy call.deployment.settings.apiKey with
  | none => rfl
  | some apiKey =>
      have other := unconfigured apiKey configured
      cases authenticateOpaqueToken call.deployment.credentials call.readings.checkedAt
          call.readings.usedAt db token with
      | none => simp only [other]
      | some served => simp only [other]

section

variable {db next : Database} {call : Call} {credentials : Credentials} {token : String}
variable {authSession : AuthSession} {membership : Membership}

theorem principal?_of_session (keyed : db.SessionsKeyed) (stored : authSession ∈ db.authSessions)
    (hashed : credentials.hashToken token = authSession.tokenHash)
    (presents : call.Presents credentials token) :
    call.principal? db = authSession.principal? db call.readings.checkedAt := by
  have stands : db.authSessions.find? (·.tokenHash == credentials.hashToken token) =
      some authSession := by
    refine Keyed.find?_eq_some keyed stored (by simp [hashed]) fun other chosen => ?_
    have same : other.tokenHash = authSession.tokenHash := by
      rw [beq_iff_eq.mp chosen, hashed]
    simp [AuthSession.conflicts, same]
  have authenticated := getCurrentPrincipal_presented presents db
  simp only [authenticateOpaqueToken, stands] at authenticated
  by_cases valid : authSession.revokedAt = none ∧ call.readings.checkedAt < authSession.expiresAt
  · have accepted : ¬(authSession.revokedAt ≠ none ∨
        isExpired call.readings.checkedAt (some authSession.expiresAt) = true) := by
      rw [not_or, not_not, Bool.not_eq_true, isExpired_some]
      exact valid
    rw [if_neg accepted] at authenticated
    rw [AuthSession.principal?, if_pos valid, Call.principal?, authenticated]
    cases activeMembership db authSession.userId authSession.organizationId <;> rfl
  · have refused : authSession.revokedAt ≠ none ∨
        isExpired call.readings.checkedAt (some authSession.expiresAt) = true := by
      by_contra accepted
      rw [not_or, not_not, Bool.not_eq_true, isExpired_some] at accepted
      exact valid accepted
    rw [if_pos refused] at authenticated
    rw [AuthSession.principal?, if_neg valid, Call.principal?, authenticated]
    rfl

theorem activeMembership_eq_some (keyed : db.MembershipsKeyed)
    (member : membership ∈ db.memberships)
    (active : ∃ user ∈ db.users, user.id = membership.userId ∧ user.status = .active) :
    activeMembership db membership.userId membership.organizationId = some membership := by
  rcases active with ⟨user, stored, ofUser, status⟩
  refine Keyed.find?_eq_some keyed member ?_ fun other chosen => ?_
  · simp only [beq_self_eq_true, Bool.true_and, List.any_eq_true, Bool.and_eq_true, beq_iff_eq]
    exact ⟨user, stored, ofUser, status⟩
  · simp only [Bool.and_eq_true, beq_iff_eq] at chosen
    simp [Membership.conflicts, chosen.1.1, chosen.1.2]

/-! ## The session of an answer -/

structure Issued (credentials : Credentials) (answer : TokenRead) (db : Database)
    (authSession : AuthSession) (membership : Membership) : Prop where
  stored : authSession ∈ db.authSessions
  hashed : credentials.hashToken answer.accessToken = authSession.tokenHash
  unrevoked : authSession.revokedAt = none
  expires : authSession.expiresAt = answer.expiresAt
  ofUser : answer.user.map (·.id) = some authSession.userId
  ofOrganization : authSession.organizationId = answer.organization.id
  member : membership ∈ db.memberships
  memberUser : membership.userId = authSession.userId
  memberOrganization : membership.organizationId = authSession.organizationId
  role : membership.role = answer.role
  active : ∃ user ∈ db.users, user.id = authSession.userId ∧ user.status = .active

structure Database.KeepsToken (credentials : Credentials) (answer : TokenRead) (db : Database)
    (authSession : AuthSession) : Prop where
  stored : authSession ∈ db.authSessions
  ofUser : answer.user.map (·.id) = some authSession.userId
  ofOrganization : authSession.organizationId = answer.organization.id
  expires : authSession.expiresAt = answer.expiresAt
  decides : ∀ call : Call, call.Presents credentials answer.accessToken →
    call.principal? db = authSession.principal? db call.readings.checkedAt

/-- The token works with the answered role at once, and its session decides about
it in every later state. -/
structure TokenStays (credentials : Credentials) (answer : TokenRead) (db : Database) : Prop where
  now : ∀ call : Call, call.Presents credentials answer.accessToken →
    call.readings.checkedAt < answer.expiresAt →
    ∃ principal, call.principal? db = some principal ∧
      principal.userId = answer.user.map (·.id) ∧
      principal.organizationId = answer.organization.id ∧ principal.role = answer.role ∧
      principal.authenticationType = .session
  later : ∀ events later, run serverStep db events = some later →
    ∃ authSession, later.KeepsToken credentials answer authSession

theorem Issued.stays {answer : TokenRead} (reachable : db.Reachable)
    (issued : Issued credentials answer db authSession membership) :
    TokenStays credentials answer db where
  now call presents unexpired := by
    have decides := principal?_of_session reachable.sessionsKeyed issued.stored issued.hashed
      presents
    have active := activeMembership_eq_some reachable.identityConsistent.memberships
      issued.member (issued.memberUser ▸ issued.active)
    rw [issued.memberUser, issued.memberOrganization] at active
    rw [← issued.expires] at unexpired
    rw [AuthSession.principal?, if_pos ⟨issued.unrevoked, unexpired⟩, active] at decides
    exact ⟨_, decides, issued.ofUser.symm, issued.ofOrganization, issued.role, rfl⟩
  later events later ran := by
    rcases (run_precedes ran).authSessions.exists_mem issued.stored with ⟨_, stored, _, -, rfl⟩
    exact ⟨_, {
      stored
      ofUser := issued.ofUser
      ofOrganization := issued.ofOrganization
      expires := issued.expires
      decides := fun call presents =>
        principal?_of_session (reachable.run ran).sessionsKeyed stored issued.hashed presents }⟩

end

/-! ## Who is issued one -/

section

variable {context : BootstrapContext} {readings : RequestReadings} {db next : Database}
variable {principal : Principal}

theorem mem_membershipsOf {userId : String} {membership : Membership} {organization : Organization}
    (member : (membership, organization) ∈ db.membershipsOf userId) :
    membership ∈ db.memberships ∧ membership.userId = userId ∧
      organization.id = membership.organizationId := by
  rcases List.mem_filterMap.mp member with ⟨stored, listed, found⟩
  rcases Option.map_eq_some_iff.mp found with ⟨other, organizationFound, same⟩
  cases same
  rcases List.mem_filter.mp listed with ⟨storedMember, ofUser⟩
  exact ⟨storedMember, beq_iff_eq.mp ofUser, by simpa using List.find?_some organizationFound⟩

theorem loginMembership_mem {userId : String} {organizationSlug : Option String}
    {membership : Membership} {organization : Organization}
    (found : loginMembership db userId organizationSlug = some (membership, organization)) :
    (membership, organization) ∈ db.membershipsOf userId := by
  simp only [loginMembership] at found
  split at found
  · exact (List.mem_insertionSort _).mp (List.mem_of_find?_eq_some found)
  · exact (List.mem_insertionSort _).mp (List.mem_of_head? found)

theorem login_ok {credentials : Credentials} {readings : LoginReadings} {payload : LoginCreate}
    {user : Option User} {loggedIn : User} {membership : Membership} {organization : Organization}
    (answered : (login credentials readings payload user).answer =
      .ok (loggedIn, membership, organization)) :
    (∃ stored, user = some stored ∧ stored.status = .active ∧ loggedIn.id = stored.id ∧
      loggedIn.read = stored.read) ∧ readings.membership = some (membership, organization) := by
  cases user with
  | none => cases answered
  | some stored =>
      simp only [login] at answered
      split at answered
      · cases answered
      · next active =>
          split at answered
          · cases answered
          · split at answered
            · cases answered
            · split at answered
              · cases answered
              · next found =>
                  cases answered
                  refine ⟨⟨stored, rfl, not_not.mp active, ?_, ?_⟩, found⟩
                  · split <;> rfl
                  · split <;> rfl

theorem active_of_precedes {later : Database} {userId : String} (kept : db.Precedes later)
    (active : ∃ user ∈ db.users, user.id = userId ∧ user.status = .active) :
    ∃ user ∈ later.users, user.id = userId ∧ user.status = .active := by
  rcases active with ⟨user, stored, ofUser, status⟩
  rcases kept.users.exists_mem stored with ⟨_, laterStored, _, _, _, rfl⟩
  exact ⟨_, laterStored, ofUser, status⟩

theorem issued_of_applied {user : User} {organization : Organization} {membership : Membership}
    (applied : db.apply (.insertAuthSession
      (newAuthSession context readings user.id organization.id).1) = some next)
    (listed : (membership, organization) ∈ db.membershipsOf user.id)
    (active : ∃ stored ∈ db.users, stored.id = user.id ∧ stored.status = .active) :
    Issued context.credentials
      (tokenResponse (newAuthSession context readings user.id organization.id).1
        (newAuthSession context readings user.id organization.id).2 user organization
        membership.role) next (newAuthSession context readings user.id organization.id).1
      membership := by
  rcases apply_insertAuthSession applied with ⟨-, -, rfl⟩
  rcases mem_membershipsOf listed with ⟨member, ofUser, ofOrganization⟩
  exact {
    stored := List.mem_append_right _ List.mem_cons_self
    hashed := rfl
    unrevoked := rfl
    expires := rfl
    ofUser := rfl
    ofOrganization := rfl
    member
    memberUser := ofUser
    memberOrganization := ofOrganization.symm
    role := rfl
    active }

theorem loginUser_issues {payload : LoginCreate} {answer : TokenRead}
    (answered : (Reply.settle db (loginUser context readings db payload)).2 = .ok answer) :
    ∃ authSession membership, Issued context.credentials answer
      (Reply.settle db (loginUser context readings db payload)).1 authSession membership := by
  rcases Reply.settle_ok answered with ⟨accepted, committed⟩
  generalize (Reply.settle db (loginUser context readings db payload)).1 = next at committed ⊢
  simp only [loginUser] at accepted committed
  split at accepted
  · cases accepted
  · next user membership organization loggedIn =>
      rcases login_ok loggedIn with ⟨⟨stored, found, active, sameId, -⟩, selected⟩
      rw [loggedIn] at committed
      simp only [] at committed
      rw [Database.commit_append] at committed
      rcases Option.bind_eq_some_iff.mp committed with ⟨middle, unlocked, inserted⟩
      rcases commit_cons inserted with ⟨last, applied, done⟩
      cases done
      have kept := Database.Precedes.of_commit unlocked
      have same := commit_onCredentials (lockoutWrites_onCredentials _ _) unlocked
      have listed : (membership, organization) ∈ middle.membershipsOf user.id := by
        simp only [found, Option.bind_some] at selected
        have before := loginMembership_mem selected
        rw [sameId]
        simpa only [Database.membershipsOf, Database.organization?, same.1, same.2] using before
      have activeStill := active_of_precedes kept
        ⟨stored, List.mem_of_find?_eq_some found, rfl, active⟩
      rw [← sameId] at activeStill
      cases accepted
      exact ⟨_, membership, issued_of_applied applied listed activeStill⟩

theorem switchOrganization_issues {payload : OrganizationSwitch} {answer : TokenRead}
    (answered : (switchOrganization context readings db principal payload).answer = .ok answer)
    (committed : db.commit (switchOrganization context readings db principal payload).writes =
      some next) :
    ∃ authSession membership, Issued context.credentials answer next authSession membership := by
  have accepted := Reply.ofExcept_ok answered
  rcases bind_eq_ok_iff.mp accepted with ⟨user, required, accepted⟩
  rcases requireUser_ok required with ⟨-, found, active⟩
  simp only [] at accepted
  split at accepted
  · cases accepted
  · next membership organization selected =>
      have written : (switchOrganization context readings db principal payload).writes =
          [.insertAuthSession (newAuthSession context readings user.id organization.id).1] :=
        (congrArg Prod.fst (Except.ok.inj accepted)).symm
      have answeredToken : answer =
          tokenResponse (newAuthSession context readings user.id organization.id).1
            (newAuthSession context readings user.id organization.id).2 user organization
            membership.role :=
        (congrArg Prod.snd (Except.ok.inj accepted)).symm
      rw [written] at committed
      rcases commit_cons committed with ⟨last, applied, done⟩
      cases done
      rw [answeredToken]
      refine ⟨_, membership, issued_of_applied applied (List.mem_of_find?_eq_some selected) ?_⟩
      exact ⟨user, List.mem_of_find?_eq_some found, rfl, active⟩

theorem issued_of_bootstrapped {request : BootstrapRequest} {organization : Organization}
    {created : Bool}
    (committed : db.commit (BootstrapTransaction.allWrites context request organization created) =
      some next) :
    Issued context.credentials (request.token context organization) next
      (request.newSession context organization) (request.newMembership organization) := by
  rcases commit_allWrites_iff.mp committed with ⟨-, rfl⟩
  exact {
    stored := List.mem_append_right _ List.mem_cons_self
    hashed := rfl
    unrevoked := rfl
    expires := rfl
    ofUser := rfl
    ofOrganization := rfl
    member := List.mem_append_right _ List.mem_cons_self
    memberUser := rfl
    memberOrganization := rfl
    role := rfl
    active := ⟨_, List.mem_append_right _ List.mem_cons_self, rfl, rfl⟩ }

theorem bootstrap_issues {request : BootstrapRequest} {answer : TokenRead}
    (answered : (Reply.settle db (bootstrap context db request)).2 = .ok answer) :
    ∃ authSession membership, Issued context.credentials answer
      (Reply.settle db (bootstrap context db request)).1 authSession membership := by
  rcases Reply.settle_ok answered with ⟨accepted, committed⟩
  generalize (Reply.settle db (bootstrap context db request)).1 = next at committed ⊢
  simp only [bootstrap] at accepted committed
  split at accepted
  · cases accepted
  · next checked =>
      split at accepted
      · cases accepted
      · next first =>
          rw [checked] at committed
          simp only [if_neg first] at committed
          cases accepted
          exact ⟨_, _, issued_of_bootstrapped committed⟩

end

structure TokensStay (db : Database) : Prop where
  login : ∀ (deployment : Deployment) readings payload answer,
    (Reply.settle db (loginUser deployment.toBootstrapContext readings db payload)).2 =
      .ok answer →
    TokenStays deployment.credentials answer
      (Reply.settle db (loginUser deployment.toBootstrapContext readings db payload)).1
  bootstrap : ∀ (deployment : Deployment) request answer,
    (Reply.settle db (bootstrap deployment.toBootstrapContext db request)).2 = .ok answer →
    TokenStays deployment.credentials answer
      (Reply.settle db (bootstrap deployment.toBootstrapContext db request)).1
  switchOrganization : ∀ (call : Call) payload answer,
    ((call.asking (.identity (.switchOrganization payload))).serve db).2 = .ok answer →
    TokenStays call.deployment.credentials answer
      ((call.asking (.identity (.switchOrganization payload))).serve db).1

/-- An issued token is good for its member, and for as long as its session. -/
theorem tokens_stay {db : Database} (reachable : db.Reachable) : TokensStay db where
  login deployment readings payload answer answered := by
    rcases loginUser_issues answered with ⟨authSession, membership, issued⟩
    exact issued.stays
      (@Database.Reachable.run _ _ [.login deployment readings payload] reachable rfl)
  bootstrap deployment request answer answered := by
    rcases bootstrap_issues answered with ⟨authSession, membership, issued⟩
    exact issued.stays (@Database.Reachable.run _ _ [.bootstrap deployment request] reachable rfl)
  switchOrganization call payload answer answered := by
    rcases Call.serve_ok answered with ⟨principal, -, switched, committed⟩
    rcases switchOrganization_issues switched committed with ⟨authSession, membership, issued⟩
    exact issued.stays (reachable.serve _)

/-- Bob's login, after Alice has added him. -/
theorem tokens_stay_scenario :
    (Reply.settle (Scenario.stateAfter (Scenario.memberEvents.take 2))
      (loginUser Scenario.devDeployment.toBootstrapContext
        (Scenario.namedReadings "bob").toRequestReadings
        (Scenario.stateAfter (Scenario.memberEvents.take 2))
        { email := "bob@example.com", password := "another-password"
          organizationSlug := some "alpha" })).2.isOk = true ∧
      TokensStay (Scenario.stateAfter (Scenario.memberEvents.take 2)) :=
  ⟨by decide +kernel, tokens_stay ⟨0, Scenario.memberEvents.take 2, rfl⟩⟩

end EvalForge
