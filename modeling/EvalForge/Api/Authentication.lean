import EvalForge.Api.Bootstrap
import EvalForge.Api.Login
import EvalForge.Api.Organizations

/-! # Sessions, passwords and API keys

The handlers of the authentication routes, on the whole database.
-/

namespace EvalForge

def invalidUser : HttpError := httpError 401 "User is inactive"

def requireUser (db : Database) (principal : Principal) : Except HttpError User :=
  match principal.userId with
  | none => .error (httpError 403 "This operation requires a user credential")
  | some userId =>
      match db.user? userId with
      | some user => if user.status = .active then .ok user else .error invalidUser
      | none => .error invalidUser

def Database.membershipsOf (db : Database) (userId : String) : List (Membership × Organization) :=
  (db.memberships.filter (·.userId == userId)).filterMap fun membership =>
    (db.organization? membership.organizationId).map fun organization => (membership, organization)

section

variable (context : BootstrapContext) (readings : RequestReadings)

def newAuthSession (userId organizationId : String) : AuthSession × String :=
  let (token, tokenHash, expiresAt) := newSessionToken context.credentials
    context.settings.sessionTtlHours (readings.utcNow 2) readings
  ({ id := readings.newUuid 0, userId, organizationId, tokenHash, expiresAt
     createdAt := readings.utcNow 3 }, token)

def tokenResponse (authSession : AuthSession) (token : String) (user : User)
    (organization : Organization) (role : Role) : TokenRead where
  user := some user.read
  organization := organization
  role := role
  authenticationType := .session
  accessToken := token
  expiresAt := authSession.expiresAt

/-! ## Login -/

/-- The first membership that a login may use; an empty slug selects none. -/
def loginMembership (db : Database) (userId : String) (organizationSlug : Option String) :
    Option (Membership × Organization) :=
  let rows := (db.membershipsOf userId).insertionSort fun row other =>
    toLex (row.1.createdAt, row.2.slug) ≤ toLex (other.1.createdAt, other.2.slug)
  match truthy organizationSlug with
  | some slug => rows.find? (·.2.slug == slug)
  | none => rows.head?

/-- The update of the locked row, unless nothing changed. -/
def lockoutWrites (before after : Option User) : List Write :=
  match before, after with
  | some before, some after =>
      if before.failedLoginAttempts = after.failedLoginAttempts ∧
          before.lockedUntil = after.lockedUntil then []
      else [.setLockout before.id after.failedLoginAttempts after.lockedUntil]
  | _, _ => []

def loginUser (db : Database) (payload : LoginCreate) : Reply TokenRead :=
  let user := db.users.find? (·.email == payload.email)
  let result := login context.credentials
    { checkedAt := readings.utcNow 0
      countedAt := readings.utcNow 1
      membership := user.bind fun user => loginMembership db user.id payload.organizationSlug }
    payload user
  let writes := lockoutWrites user result.user
  match result.answer with
  | .error error => { writes, answer := .error error }
  | .ok (user, membership, organization) =>
      let (authSession, token) := newAuthSession context readings user.id organization.id
      { writes := writes ++ [.insertAuthSession authSession]
        answer := .ok (tokenResponse authSession token user organization membership.role) }

/-! ## The current principal -/

def currentPrincipal (db : Database) (principal : Principal) : Reply PrincipalRead :=
  .ofExcept <|
    match db.organization? principal.organizationId with
    | none => .error (httpError 404 "Active organization not found")
    | some organization =>
        let user := (truthy principal.userId).bind db.user?
        .ok ([], {
          user := user.map (·.read)
          organization
          role := principal.role
          authenticationType := principal.authenticationType })

def logout (db : Database) (principal : Principal) : Reply Unit :=
  let authSession := principal.sessionId.bind fun sessionId =>
    db.authSessions.find? (·.id == sessionId)
  { writes :=
      match authSession with
      | some authSession =>
          if authSession.revokedAt = none then [.revokeSession authSession.id (readings.utcNow 0)]
          else []
      | none => []
    answer := .ok () }

def changePassword (db : Database) (principal : Principal) (payload : PasswordChange) :
    Reply Unit := .ofExcept do
  let user ← requireUser db principal
  let valid := user.passwordHash.any (context.credentials.verifyPassword payload.currentPassword)
  if valid = false then throw (httpError 401 "Current password is invalid")
  let others := db.authSessions.filter fun authSession =>
    authSession.userId == user.id && authSession.revokedAt.isNone &&
      truthy principal.sessionId != some authSession.id
  return (.setPasswordHash user.id (context.hashPassword payload.newPassword readings.salt) ::
    others.map fun authSession => .revokeSession authSession.id (readings.utcNow 0), ())

def switchOrganization (db : Database) (principal : Principal) (payload : OrganizationSwitch) :
    Reply TokenRead := .ofExcept do
  let user ← requireUser db principal
  match (db.membershipsOf user.id).find? (·.2.slug == payload.organizationSlug) with
  | none => throw (httpError 404 "Organization not found")
  | some (membership, organization) =>
      let (authSession, token) := newAuthSession context readings user.id organization.id
      return ([.insertAuthSession authSession],
        tokenResponse authSession token user organization membership.role)

/-! ## API keys -/

def Database.apiKeysOf (db : Database) (userId organizationId : String) : List PersonalApiKey :=
  db.personalApiKeys.filter fun apiKey =>
    apiKey.userId == userId && apiKey.organizationId == organizationId

def listApiKeys (db : Database) (principal : Principal) : Reply (List ApiKeyRead) := .ofExcept do
  let user ← requireUser db principal
  let apiKeys := (db.apiKeysOf user.id principal.organizationId).insertionSort
    fun apiKey other => other.createdAt ≤ apiKey.createdAt
  return ([], apiKeys.map (·.read))

/-- `new_api_key` without the hash: the token and its prefix. -/
def newApiKey : String × String :=
  let keyPrefix := PythonText.truncate 8 readings.tokenUrlsafe
  ("efk_" ++ keyPrefix ++ "_" ++ readings.tokenUrlsafe, keyPrefix)

def createApiKey (db : Database) (principal : Principal) (payload : ApiKeyCreate) :
    Reply ApiKeyCreated := .ofExcept do
  let user ← requireUser db principal
  if (db.apiKeysOf user.id principal.organizationId).any (·.name == payload.name) then
    throw (httpError 409 "API key name already exists in this organization")
  let (token, keyPrefix) := newApiKey readings
  let apiKey : PersonalApiKey :=
    { id := readings.newUuid 0
      userId := user.id
      organizationId := principal.organizationId
      name := payload.name
      keyPrefix
      tokenHash := context.credentials.hashToken token
      expiresAt := payload.expiresInDays.map fun days =>
        readings.utcNow 0 + days * 86400000000
      createdAt := readings.utcNow 1 }
  return ([.insertApiKey apiKey], { toApiKeyRead := apiKey.read, apiKey := token })

def revokeApiKey (db : Database) (principal : Principal) (apiKeyId : String) : Reply Unit :=
  .ofExcept do
    let user ← requireUser db principal
    match (db.apiKeysOf user.id principal.organizationId).find? (·.id == apiKeyId) with
    | none => throw (httpError 404 "API key not found")
    | some apiKey =>
        let writes :=
          if apiKey.revokedAt = none then [.revokeApiKey apiKey.id (readings.utcNow 0)] else []
        return (writes, ())

end

end EvalForge
