import EvalForge.Core.Tenancy

/-! # Identity payloads

Payloads are as their validators leave them: emails and slugs are normalized
and roles exist.
-/

namespace EvalForge

structure BootstrapCreate where
  email : String
  password : String
  displayName : String
  organizationName : String
  organizationSlug : String

structure OrganizationSwitch where
  organizationSlug : String

structure PasswordChange where
  currentPassword : String
  newPassword : String

structure ApiKeyCreate where
  name : String
  expiresInDays : Option Nat := none

structure OrganizationCreate where
  name : String
  slug : String

structure MemberCreate where
  email : String
  displayName : String
  password : Option String := none
  role : Role

structure MemberRoleUpdate where
  role : Role

structure UserRead where
  id : String
  email : String
  displayName : String
  status : UserStatus
  createdAt : Nat

def User.read (user : User) : UserRead where
  id := user.id
  email := user.email
  displayName := user.displayName
  status := user.status
  createdAt := user.createdAt

structure PrincipalRead where
  user : Option UserRead
  organization : Organization
  role : Role
  authenticationType : AuthenticationType

structure TokenRead extends PrincipalRead where
  accessToken : String
  expiresAt : Nat

structure ApiKeyRead where
  id : String
  name : String
  keyPrefix : String
  expiresAt : Option Nat
  lastUsedAt : Option Nat
  revokedAt : Option Nat
  createdAt : Nat

def PersonalApiKey.read (apiKey : PersonalApiKey) : ApiKeyRead where
  id := apiKey.id
  name := apiKey.name
  keyPrefix := apiKey.keyPrefix
  expiresAt := apiKey.expiresAt
  lastUsedAt := apiKey.lastUsedAt
  revokedAt := apiKey.revokedAt
  createdAt := apiKey.createdAt

structure ApiKeyCreated extends ApiKeyRead where
  apiKey : String

structure OrganizationMembershipRead where
  organization : Organization
  role : Role

structure MemberRead where
  user : UserRead
  role : Role
  joinedAt : Nat

end EvalForge
