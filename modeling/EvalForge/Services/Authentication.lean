import EvalForge.Models.Identity

/-! # Credentials

The hash functions are parameters. Instants are microseconds.
-/

namespace EvalForge

/-- `verify_password`, `hash_token` under the configured pepper, and
`DUMMY_PASSWORD_HASH`. -/
structure Credentials where
  verifyPassword : String → String → Bool
  hashToken : String → String
  dummyPasswordHash : String

/-- What a request reads outside the database: ids and instants, one after the
other, and the random text of a token and of a salt. -/
structure RequestReadings where
  newUuid : Nat → String
  utcNow : Nat → Nat
  tokenUrlsafe : String
  salt : String

/-- `is_expired(value)`, when `utc_now` reads `now`. -/
def isExpired (now : Nat) (value : Option Nat) : Bool :=
  match value with
  | none => false
  | some value => decide (value ≤ now)

def newSessionToken (credentials : Credentials) (sessionTtlHours : Int) (now : Nat)
    (readings : RequestReadings) : String × String × Nat :=
  let token := "efs_" ++ readings.tokenUrlsafe
  (token, credentials.hashToken token, (now + sessionTtlHours * 3600000000).toNat)

end EvalForge
