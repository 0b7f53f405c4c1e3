import EvalForge.Core.Tenancy
import EvalForge.Services.Authentication

/-! # Login

The handler on the locked row of a user, and the lockout that the counter of
failed attempts enforces over any sequence of attempts.
-/

namespace EvalForge

def maxFailedLoginAttempts : Nat := 5

/-- `LOGIN_LOCK_MINUTES`, in microseconds. -/
def loginLock : Nat := 15 * 60 * 1000000

structure LoginCreate where
  email : String
  password : String
  organizationSlug : Option String

/-- What a login reads besides the row of the user: the clock, once for the lock
and once for a new lock, and the first membership in the organizations that the
slug selects. -/
structure LoginReadings where
  checkedAt : Nat
  countedAt : Nat
  membership : Option (Membership × Organization)

structure LoginResult where
  user : Option User
  answer : Except HttpError (User × Membership × Organization)

def invalidLogin : HttpError := httpError 401 "Invalid email, password, or organization"

def Credentials.candidateHash (credentials : Credentials) (user : Option User) : String :=
  match user with
  | some user =>
      match user.status, user.passwordHash with
      | .active, some passwordHash => passwordHash
      | _, _ => credentials.dummyPasswordHash
  | none => credentials.dummyPasswordHash

def login (credentials : Credentials) (readings : LoginReadings) (payload : LoginCreate)
    (user : Option User) : LoginResult :=
  let passwordValid :=
    credentials.verifyPassword payload.password (credentials.candidateHash user)
  match user with
  | none => { user := none, answer := .error invalidLogin }
  | some user =>
      if user.status ≠ .active then { user := some user, answer := .error invalidLogin }
      else if user.lockedUntil ≠ none ∧ isExpired readings.checkedAt user.lockedUntil = false then
        { user := some user, answer := .error invalidLogin }
      else
        let user :=
          if user.lockedUntil ≠ none then
            { user with lockedUntil := none, failedLoginAttempts := 0 }
          else user
        if passwordValid = false then
          let user := { user with failedLoginAttempts := user.failedLoginAttempts + 1 }
          let user :=
            if maxFailedLoginAttempts ≤ user.failedLoginAttempts then
              { user with lockedUntil := some (readings.countedAt + loginLock) }
            else user
          { user := some user, answer := .error invalidLogin }
        else
          let user := { user with failedLoginAttempts := 0, lockedUntil := none }
          match readings.membership with
          | none => { user := some user, answer := .error invalidLogin }
          | some (membership, organization) =>
              { user := some user, answer := .ok (user, membership, organization) }

end EvalForge
