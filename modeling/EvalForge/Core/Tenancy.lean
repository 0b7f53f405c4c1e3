import EvalForge.Foundation.Json
import EvalForge.Models.Identity

/-! # Tenancy

Principals, the check of their role, and the errors with which handlers answer.
-/

namespace EvalForge

def defaultOrganizationId : String := "00000000-0000-0000-0000-000000000001"

/-- An `HTTPException`. What a handler does not catch is answered with 500. -/
structure HttpError where
  status : Nat
  detail : Json

def httpError (status : Nat) (detail : String) : HttpError where
  status := status
  detail := .str detail

def internalServerError : HttpError := httpError 500 "Internal Server Error"

inductive AuthenticationType
  | systemApiKey
  | development
  | session
  | personalApiKey
  deriving DecidableEq, Repr

structure Principal where
  userId : Option String
  organizationId : String
  role : Role
  authenticationType : AuthenticationType
  sessionId : Option String := none
  apiKeyId : Option String := none

def requireRole (principal : Principal) (minimumRole : Role) : Except HttpError Unit :=
  let roleText := minimumRole.text
  if principal.role.level < minimumRole.level then
    .error (httpError 403 s!"Role {roleText} or higher is required")
  else .ok ()

theorem requireRole_eq_ok_iff {principal : Principal} {minimumRole : Role} :
    requireRole principal minimumRole = .ok () ↔
      minimumRole.level ≤ principal.role.level := by
  unfold requireRole
  simp only []
  split
  · next below => simp [below]
  · next reached => simp [Nat.not_lt.mp reached]

/-! ## Checks that raise -/

theorem bind_eq_ok_iff {Error : Type u} {Value Result : Type v} {action : Except Error Value}
    {next : Value → Except Error Result} {result : Result} :
    (action >>= next) = .ok result ↔
      ∃ value, action = .ok value ∧ next value = .ok result := by
  cases action with
  | error error => simp [bind, Except.bind]
  | ok value => simp [bind, Except.bind]

theorem mapError_eq_ok_iff {Error Other Value : Type} {action : Except Error Value}
    {change : Error → Other} {value : Value} :
    action.mapError change = .ok value ↔ action = .ok value := by
  cases action with
  | error error => simp [Except.mapError]
  | ok found => simp [Except.mapError]

end EvalForge
