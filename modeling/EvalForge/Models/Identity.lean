/-! # Identities

The rows of users, organizations, memberships and credentials. The check
constraints of the tables make the roles and the statuses enumerations.
-/

namespace EvalForge

inductive Role
  | viewer
  | evaluator
  | admin
  | owner
  deriving DecidableEq, Repr

namespace Role

def text : Role → String
  | viewer => "viewer"
  | evaluator => "evaluator"
  | admin => "admin"
  | owner => "owner"

/-- `ROLE_LEVELS`. -/
def level : Role → Nat
  | viewer => 10
  | evaluator => 20
  | admin => 30
  | owner => 40

end Role

inductive UserStatus
  | active
  | disabled
  deriving DecidableEq, Repr

structure User where
  id : String
  email : String
  displayName : String
  passwordHash : Option String
  status : UserStatus := .active
  failedLoginAttempts : Nat := 0
  lockedUntil : Option Nat := none
  createdAt : Nat

structure Organization where
  id : String
  name : String
  slug : String
  createdAt : Nat

structure Membership where
  organizationId : String
  userId : String
  role : Role
  createdAt : Nat

structure AuthSession where
  id : String
  userId : String
  organizationId : String
  tokenHash : String
  expiresAt : Nat
  revokedAt : Option Nat := none
  createdAt : Nat

structure PersonalApiKey where
  id : String
  userId : String
  organizationId : String
  name : String
  keyPrefix : String
  tokenHash : String
  expiresAt : Option Nat
  lastUsedAt : Option Nat := none
  revokedAt : Option Nat := none
  createdAt : Nat

end EvalForge
