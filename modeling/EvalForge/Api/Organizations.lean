import EvalForge.Core.Auth
import EvalForge.Schemas.Auth
import Mathlib.Data.List.Sort
import Mathlib.Data.Prod.Lex

/-! # Organizations and their members -/

namespace EvalForge

def requireUserId (principal : Principal) : Except HttpError String :=
  match principal.userId with
  | some userId => .ok userId
  | none => .error (httpError 403 "This operation requires a user credential")

def Database.organization? (db : Database) (organizationId : String) : Option Organization :=
  db.organizations.find? (·.id == organizationId)

def Database.user? (db : Database) (userId : String) : Option User :=
  db.users.find? (·.id == userId)

def Database.membership? (db : Database) (organizationId userId : String) : Option Membership :=
  db.memberships.find? fun membership =>
    membership.organizationId == organizationId && membership.userId == userId

/-! ## Reads -/

def listOrganizations (db : Database) (principal : Principal) :
    Reply (List OrganizationMembershipRead) := .ofExcept do
  let userId ← requireUserId principal
  let rows := (db.memberships.filter (·.userId == userId)).filterMap fun membership =>
    (db.organization? membership.organizationId).map fun organization =>
      ({ organization, role := membership.role } : OrganizationMembershipRead)
  return ([], rows.insertionSort fun row other =>
    toLex (row.organization.name, row.organization.slug) ≤
      toLex (other.organization.name, other.organization.slug))

def currentOrganization (db : Database) (principal : Principal) : Reply Organization :=
  .ofExcept <|
    match db.organization? principal.organizationId with
    | some organization => .ok ([], organization)
    | none => .error (httpError 404 "Active organization not found")

def listMembers (db : Database) (principal : Principal) : Reply (List MemberRead) :=
  let rows := (db.memberships.filter (·.organizationId == principal.organizationId)).filterMap
    fun membership => (db.user? membership.userId).map fun user =>
      ({ user := user.read, role := membership.role, joinedAt := membership.createdAt } : MemberRead)
  { answer := .ok (rows.insertionSort fun row other => row.user.email ≤ other.user.email) }

/-! ## Creation -/

def createOrganization (readings : RequestReadings) (db : Database) (principal : Principal)
    (payload : OrganizationCreate) : Reply Organization := .ofExcept do
  let userId ← requireUserId principal
  if db.organizations.any (·.slug == payload.slug) then
    throw (httpError 409 "Organization slug already exists")
  let organization : Organization :=
    { id := readings.newUuid 0, name := payload.name, slug := payload.slug
      createdAt := readings.utcNow 0 }
  let membership : Membership :=
    { organizationId := organization.id, userId, role := .owner, createdAt := readings.utcNow 1 }
  return ([.insertOrganization organization, .insertMembership membership], organization)

/-- The user with the email, or a new one that is flushed first. -/
def findOrCreateUser (hashPassword : String → String → String) (readings : RequestReadings)
    (db : Database) (payload : MemberCreate) : Except HttpError (List Write × User) :=
  match db.users.find? (·.email == payload.email), payload.password with
  | some user, _ =>
      if user.status ≠ .active then .error (httpError 409 "User is disabled") else .ok ([], user)
  | none, none =>
      .error (httpError 422 "A temporary password is required when creating a new user")
  | none, some password =>
      let user : User :=
        { id := readings.newUuid 0, email := payload.email, displayName := payload.displayName
          passwordHash := some (hashPassword password readings.salt)
          createdAt := readings.utcNow 0 }
      if (db.apply (.insertUser user)).isNone then .error internalServerError
      else .ok ([.insertUser user], user)

def addMember (hashPassword : String → String → String) (readings : RequestReadings)
    (db : Database) (principal : Principal) (payload : MemberCreate) : Reply MemberRead :=
  .ofExcept do
    requireRole principal .admin
    if payload.role = .owner then requireRole principal .owner
    let (writes, user) ← findOrCreateUser hashPassword readings db payload
    if (db.membership? principal.organizationId user.id).isSome then
      throw (httpError 409 "User is already a member of this organization")
    let membership : Membership :=
      { organizationId := principal.organizationId, userId := user.id, role := payload.role
        createdAt := readings.utcNow 1 }
    return (writes ++ [.insertMembership membership],
      { user := user.read, role := payload.role, joinedAt := membership.createdAt })

/-! ## Roles and removal -/

def membershipOr404 (db : Database) (organizationId userId : String) :
    Except HttpError Membership :=
  match db.membership? organizationId userId with
  | some membership => .ok membership
  | none => .error (httpError 404 "Member not found")

def Database.ownerCount (db : Database) (organizationId : String) : Nat :=
  db.memberships.countP fun membership =>
    membership.organizationId == organizationId && membership.role == .owner

def ensureNotLastOwner (db : Database) (organizationId : String) : Except HttpError Unit :=
  if db.ownerCount organizationId ≤ 1 then
    .error (httpError 409 "An organization must retain at least one owner")
  else .ok ()

/-- What `update_member` and `remove_member` do to a membership. -/
inductive MemberChange
  | assign (role : Role)
  | remove
  deriving DecidableEq

def MemberChange.takesOwner : MemberChange → Bool
  | .assign role => role != .owner
  | .remove => true

/-- The checks on the loaded membership that read no table. -/
def checkMemberChange (principal : Principal) (change : MemberChange) (membership : Membership) :
    Except HttpError Unit :=
  if membership.role = .owner ∨ change = .assign .owner then requireRole principal .owner
  else .ok ()

def MemberChange.countsOwners (change : MemberChange) (membership : Membership) : Bool :=
  membership.role == .owner && change.takesOwner

/-- The flush, which assigns no role that the loaded membership has. An update
of a row that is gone raises; a removal of one does nothing. -/
def flushMemberChange (db : Database) (change : MemberChange) (membership : Membership) :
    Except HttpError (List Write) :=
  match change with
  | .assign role =>
      if membership.role = role then .ok []
      else if (db.membership? membership.organizationId membership.userId).isNone then
        .error internalServerError
      else .ok [.setRole membership.organizationId membership.userId role]
  | .remove => .ok [.deleteMembership membership.organizationId membership.userId]

inductive FlushedChange (db : Database) (membership : Membership) :
    MemberChange → Except HttpError (List Write) → Prop
  | same (role : Role) (same : membership.role = role) :
      FlushedChange db membership (.assign role) (.ok [])
  | gone (role : Role) (differs : membership.role ≠ role)
      (missing : db.membership? membership.organizationId membership.userId = none) :
      FlushedChange db membership (.assign role) (.error internalServerError)
  | assigned (role : Role) (differs : membership.role ≠ role) :
      FlushedChange db membership (.assign role)
        (.ok [.setRole membership.organizationId membership.userId role])
  | removed :
      FlushedChange db membership .remove
        (.ok [.deleteMembership membership.organizationId membership.userId])

theorem flushMemberChange_flushed (db : Database) (change : MemberChange)
    (membership : Membership) :
    FlushedChange db membership change (flushMemberChange db change membership) := by
  cases change with
  | assign role =>
      simp only [flushMemberChange]
      split
      · next same => exact .same role same
      · next differs =>
        split
        · next missing => exact .gone role differs (Option.isNone_iff_eq_none.mp missing)
        · exact .assigned role differs
  | remove => exact .removed

def changeMember (db : Database) (principal : Principal) (userId : String)
    (change : MemberChange) : Except HttpError (List Write × Membership) := do
  requireRole principal .admin
  let membership ← membershipOr404 db principal.organizationId userId
  checkMemberChange principal change membership
  if change.countsOwners membership then ensureNotLastOwner db principal.organizationId
  let writes ← flushMemberChange db change membership
  return (writes, membership)

/-- The user is read after the commit. -/
def updateMember (db : Database) (principal : Principal) (userId : String)
    (payload : MemberRoleUpdate) : Reply MemberRead :=
  match changeMember db principal userId (.assign payload.role) with
  | .error error => { answer := .error error }
  | .ok (writes, membership) =>
      { writes
        answer :=
          match db.user? userId with
          | some user =>
              .ok { user := user.read, role := payload.role, joinedAt := membership.createdAt }
          | none => .error internalServerError }

def removeMember (db : Database) (principal : Principal) (userId : String) : Reply Unit :=
  .ofExcept ((changeMember db principal userId .remove).map fun changed => (changed.1, ()))

end EvalForge
