import EvalForge.Core.Config
import EvalForge.Db.Session
import EvalForge.Services.Authentication

/-! # Authentication of a request

Which principal the headers of a request give, and the credential behind it.
-/

namespace EvalForge

structure RequestHeaders where
  xEvalforgeApiKey : Option String := none
  authorization : Option String := none

/-- `hmac.compare_digest` on texts, which raises on a character outside ASCII. -/
def compareDigest (left right : String) : Option Bool :=
  if (left.toList ++ right.toList).all fun char => char.toNat < 128 then some (left == right)
  else none

def authenticationError : HttpError := httpError 401 "Valid EvalForge credentials required"

/-- `_bearer_token`, with `partition` at the first space. -/
def bearerToken (authorization : Option String) : Option String :=
  match truthy authorization with
  | none => none
  | some authorization =>
      let scheme := authorization.toList.takeWhile (· != ' ')
      let token := (authorization.toList.dropWhile (· != ' ')).drop 1
      if PythonText.lower (String.ofList scheme) ≠ "bearer".toList ∨ token = [] then none
      else some (String.ofList token)

def RequestHeaders.suppliedKey (headers : RequestHeaders) : Option String :=
  (truthy headers.xEvalforgeApiKey).or (bearerToken headers.authorization)

def activeMembership (db : Database) (userId organizationId : String) : Option Membership :=
  db.memberships.find? fun membership =>
    membership.userId == userId && membership.organizationId == organizationId &&
      db.users.any fun user => user.id == membership.userId && user.status == .active

/-- The principal of a token, and what its use writes. The clock is read for the
expiry and, where an API key is used, once more. -/
def authenticateOpaqueToken (credentials : Credentials) (checkedAt usedAt : Nat) (db : Database)
    (token : String) : Option (List Write × Principal) :=
  let tokenHash := credentials.hashToken token
  match db.authSessions.find? (·.tokenHash == tokenHash) with
  | some authSession =>
      if authSession.revokedAt ≠ none ∨ isExpired checkedAt (some authSession.expiresAt) = true then
        none
      else
        match activeMembership db authSession.userId authSession.organizationId with
        | none => none
        | some membership =>
            some ([], {
              userId := some authSession.userId
              organizationId := authSession.organizationId
              role := membership.role
              authenticationType := .session
              sessionId := some authSession.id })
  | none =>
      match db.personalApiKeys.find? (·.tokenHash == tokenHash) with
      | none => none
      | some apiKey =>
          if apiKey.revokedAt ≠ none ∨ isExpired checkedAt apiKey.expiresAt = true then none
          else
            match activeMembership db apiKey.userId apiKey.organizationId with
            | none => none
            | some membership =>
                some ([.touchApiKey apiKey.id usedAt], {
                  userId := some apiKey.userId
                  organizationId := apiKey.organizationId
                  role := membership.role
                  authenticationType := .personalApiKey
                  apiKeyId := some apiKey.id })

def systemPrincipal (authenticationType : AuthenticationType) : Principal where
  userId := none
  organizationId := defaultOrganizationId
  role := .owner
  authenticationType := authenticationType

def getCurrentPrincipal (settings : Settings) (credentials : Credentials)
    (checkedAt usedAt : Nat) (db : Database) (headers : RequestHeaders) : Reply Principal :=
  match headers.suppliedKey with
  | some suppliedKey =>
      let matched : Option Bool :=
        match truthy settings.apiKey with
        | some apiKey => compareDigest suppliedKey apiKey
        | none => some false
      match matched with
      | none => { answer := .error internalServerError }
      | some true => { answer := .ok (systemPrincipal .systemApiKey) }
      | some false =>
          match authenticateOpaqueToken credentials checkedAt usedAt db suppliedKey with
          | some (writes, principal) => { writes, answer := .ok principal }
          | none => { answer := .error authenticationError }
  | none =>
      if truthy settings.apiKey = none ∧ settings.environment ≠ "production" then
        { answer := .ok (systemPrincipal .development) }
      else { answer := .error authenticationError }

/-! ## The credential behind a principal -/

/-- A session or a personal API key with this hash, neither revoked nor expired. -/
def Database.HoldsCredential (db : Database) (now : Nat) (tokenHash userId organizationId : String) :
    Prop :=
  (∃ authSession ∈ db.authSessions, authSession.tokenHash = tokenHash ∧
    authSession.revokedAt = none ∧ isExpired now (some authSession.expiresAt) = false ∧
    authSession.userId = userId ∧ authSession.organizationId = organizationId) ∨
  ∃ apiKey ∈ db.personalApiKeys, apiKey.tokenHash = tokenHash ∧
    apiKey.revokedAt = none ∧ isExpired now apiKey.expiresAt = false ∧
    apiKey.userId = userId ∧ apiKey.organizationId = organizationId

def Database.HasActiveMember (db : Database) (userId organizationId : String) (role : Role) : Prop :=
  (∃ user ∈ db.users, user.id = userId ∧ user.status = .active) ∧
  ∃ membership ∈ db.memberships, membership.userId = userId ∧
    membership.organizationId = organizationId ∧ membership.role = role

def Database.Authenticates (db : Database) (now : Nat) (tokenHash : String)
    (principal : Principal) : Prop :=
  ∃ userId, principal.userId = some userId ∧
    db.HoldsCredential now tokenHash userId principal.organizationId ∧
    db.HasActiveMember userId principal.organizationId principal.role

theorem activeMembership_some {db : Database} {userId organizationId : String}
    {membership : Membership}
    (found : activeMembership db userId organizationId = some membership) :
    db.HasActiveMember userId organizationId membership.role := by
  have member := List.mem_of_find?_eq_some found
  have selected := List.find?_some found
  simp only [Bool.and_eq_true, beq_iff_eq, List.any_eq_true] at selected
  rcases selected with ⟨⟨user, organization⟩, ⟨active, listed, identified, status⟩⟩
  exact ⟨⟨active, listed, identified.trans user, status⟩,
    ⟨membership, member, user, organization, rfl⟩⟩

theorem authenticateOpaqueToken_some {credentials : Credentials} {checkedAt usedAt : Nat}
    {db : Database} {token : String} {writes : List Write} {principal : Principal}
    (authenticated : authenticateOpaqueToken credentials checkedAt usedAt db token =
      some (writes, principal)) :
    db.Authenticates checkedAt (credentials.hashToken token) principal := by
  unfold authenticateOpaqueToken at authenticated
  simp only [] at authenticated
  split at authenticated
  · next authSession found =>
      split at authenticated
      · cases authenticated
      · next valid =>
          split at authenticated
          · cases authenticated
          · next membership active =>
              cases authenticated
              have hashed : authSession.tokenHash = credentials.hashToken token := by
                simpa using List.find?_some found
              simp only [not_or, ne_eq, not_not, Bool.not_eq_true] at valid
              exact ⟨authSession.userId, rfl,
                .inl ⟨authSession, List.mem_of_find?_eq_some found, hashed, valid.1, valid.2,
                  rfl, rfl⟩,
                activeMembership_some active⟩
  · split at authenticated
    · cases authenticated
    · next apiKey found =>
        split at authenticated
        · cases authenticated
        · next valid =>
            split at authenticated
            · cases authenticated
            · next membership active =>
                cases authenticated
                have hashed : apiKey.tokenHash = credentials.hashToken token := by
                  simpa using List.find?_some found
                simp only [not_or, ne_eq, not_not, Bool.not_eq_true] at valid
                exact ⟨apiKey.userId, rfl,
                  .inr ⟨apiKey, List.mem_of_find?_eq_some found, hashed, valid.1, valid.2,
                    rfl, rfl⟩,
                  activeMembership_some active⟩

theorem compareDigest_eq_some_true {left right : String}
    (equal : compareDigest left right = some true) : left = right := by
  unfold compareDigest at equal
  split at equal
  · simpa using equal
  · cases equal

/-- What entitles a request to its principal: the configured key, a valid
credential, or the absence of both outside production. -/
def PrincipalJustified (settings : Settings) (credentials : Credentials) (now : Nat)
    (db : Database) (headers : RequestHeaders) (principal : Principal) : Prop :=
  (∃ key, headers.suppliedKey = some key ∧ settings.apiKey = some key) ∨
  (∃ token, headers.suppliedKey = some token ∧
    db.Authenticates now (credentials.hashToken token) principal) ∨
  (headers.suppliedKey = none ∧ truthy settings.apiKey = none ∧ settings.isProduction = false)

section

variable (settings : Settings) (credentials : Credentials) (checkedAt usedAt : Nat)
variable (db : Database) (headers : RequestHeaders)

theorem principal_of_suppliedKey {key : String} (supplied : headers.suppliedKey = some key)
    {principal : Principal}
    (answered : (getCurrentPrincipal settings credentials checkedAt usedAt db headers).answer =
      .ok principal) :
    settings.apiKey = some key ∨
      db.Authenticates checkedAt (credentials.hashToken key) principal := by
  unfold getCurrentPrincipal at answered
  simp only [supplied] at answered
  split at answered
  · cases answered
  · next matched =>
      left
      split at matched
      · next apiKey configured =>
          have equal : key = apiKey := compareDigest_eq_some_true matched
          rw [equal]
          exact (Option.filter_eq_some_iff.mp configured).1
      · cases matched
  · right
    split at answered
    · next authenticated =>
        cases answered
        exact authenticateOpaqueToken_some authenticated
    · cases answered

theorem getCurrentPrincipal_anonymous (anonymous : headers.suppliedKey = none) :
    (getCurrentPrincipal settings credentials checkedAt usedAt db headers).answer =
      if truthy settings.apiKey = none ∧ settings.environment ≠ "production" then
        .ok (systemPrincipal .development)
      else .error authenticationError := by
  unfold getCurrentPrincipal
  simp only [anonymous]
  split <;> rfl

/-- A principal is justified, unless the request supplies no key, no API key is
configured, and the environment is a spelling of production other than
`production` itself. -/
theorem principal_justified_iff :
    (∀ principal,
      (getCurrentPrincipal settings credentials checkedAt usedAt db headers).answer =
        .ok principal →
      PrincipalJustified settings credentials checkedAt db headers principal) ↔
    ¬(headers.suppliedKey = none ∧ truthy settings.apiKey = none ∧
      settings.isProduction = true ∧ settings.environment ≠ "production") := by
  constructor
  · intro justified gap
    rcases gap with ⟨anonymous, unconfigured, production, spelling⟩
    have answered := getCurrentPrincipal_anonymous settings credentials checkedAt usedAt db
      headers anonymous
    rw [if_pos ⟨unconfigured, spelling⟩] at answered
    rcases justified _ answered with ⟨key, supplied, -⟩ | ⟨key, supplied, -⟩ | ⟨-, -, outside⟩
    · rw [anonymous] at supplied
      cases supplied
    · rw [anonymous] at supplied
      cases supplied
    · rw [production] at outside
      cases outside
  · intro noGap principal answered
    cases supplied : headers.suppliedKey with
    | some key =>
        rcases principal_of_suppliedKey settings credentials checkedAt usedAt db headers supplied
          answered with configured | authenticated
        · exact .inl ⟨key, supplied, configured⟩
        · exact .inr (.inl ⟨key, supplied, authenticated⟩)
    | none =>
        rw [getCurrentPrincipal_anonymous settings credentials checkedAt usedAt db headers
          supplied] at answered
        split at answered
        · next anonymous =>
            right; right
            refine ⟨supplied, anonymous.1, ?_⟩
            by_contra production
            exact noGap ⟨supplied, anonymous.1, by simpa using production, anonymous.2⟩
        · cases answered

end

namespace Scenario

def prodSettings : Settings where
  environment := "prod"
  authTokenPepper := "pepper"
  bootstrapToken := some "bootstrap"
  metricsToken := some "metrics"
  accepted := by rfl

def plainCredentials : Credentials where
  verifyPassword password encoded := password == encoded
  hashToken token := token
  dummyPasswordHash := ""

end Scenario

/-- Without an API key, `prod` lets every request in. -/
theorem prod_anonymous_owner :
    ¬∀ principal,
      (getCurrentPrincipal Scenario.prodSettings Scenario.plainCredentials 0 0
        (Database.migrated 0) {}).answer = .ok principal →
      PrincipalJustified Scenario.prodSettings Scenario.plainCredentials 0
        (Database.migrated 0) {} principal := by
  intro justified
  have answered : (getCurrentPrincipal Scenario.prodSettings Scenario.plainCredentials 0 0
      (Database.migrated 0) {}).answer = .ok (systemPrincipal .development) := by
    rw [getCurrentPrincipal_anonymous _ _ _ _ _ _ rfl]
    exact if_pos ⟨rfl, by decide⟩
  rcases justified _ answered with ⟨key, supplied, -⟩ | ⟨key, supplied, -⟩ | ⟨-, -, outside⟩
  · cases supplied
  · cases supplied
  · exact absurd outside (by decide +kernel)

end EvalForge
