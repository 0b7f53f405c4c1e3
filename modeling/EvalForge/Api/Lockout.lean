import EvalForge.Api.Login

/-! # Lockout

Any sequence of login attempts on the row of one active user. The counter is the
number of wrong passwords since the last right one or the last expired lock, and
it reaches five exactly while there is a lock.
-/

namespace EvalForge

structure LoginAttempt extends LoginReadings where
  payload : LoginCreate

/-- What an attempt comes to. A password is evaluated unless there is a lock. -/
inductive AttemptKind
  | refused
  | wrong
  | wrongAfterLock
  | right
  deriving DecidableEq, Repr

def AttemptKind.isWrong : AttemptKind → Bool
  | wrong | wrongAfterLock => true
  | refused | right => false

section Attempts

variable (credentials : Credentials)

namespace LoginAttempt

variable (attempt : LoginAttempt) (user : User)

def result : LoginResult :=
  login credentials attempt.toLoginReadings attempt.payload (some user)

def after : User :=
  (attempt.result credentials user).user.getD user

def rightPassword : Bool :=
  credentials.verifyPassword attempt.payload.password (credentials.candidateHash (some user))

def kind : AttemptKind :=
  match user.lockedUntil with
  | none => if attempt.rightPassword credentials user then .right else .wrong
  | some lockedUntil =>
      if attempt.checkedAt < lockedUntil then .refused
      else if attempt.rightPassword credentials user then .right
      else .wrongAfterLock

end LoginAttempt

def userAfter (user : User) (attempts : List LoginAttempt) : User :=
  attempts.foldl (fun user attempt => attempt.after credentials user) user

def loginHistory (user : User) : List LoginAttempt → List (LoginAttempt × AttemptKind)
  | [] => []
  | attempt :: attempts =>
      (attempt, attempt.kind credentials user) ::
        loginHistory (attempt.after credentials user) attempts

/-- The wrong passwords since the last right one and the last expired lock. -/
def wrongStreak (streak : Nat) : List AttemptKind → Nat
  | [] => streak
  | .refused :: kinds => wrongStreak streak kinds
  | .wrong :: kinds => wrongStreak (streak + 1) kinds
  | .wrongAfterLock :: kinds => wrongStreak 1 kinds
  | .right :: kinds => wrongStreak 0 kinds

/-- The row lock lets one attempt read the clock after the other. -/
structure Serialised (attempts : List LoginAttempt) : Prop where
  within : ∀ attempt ∈ attempts, attempt.checkedAt ≤ attempt.countedAt
  between : attempts.Pairwise fun earlier later => earlier.countedAt ≤ later.checkedAt

/-- The attempt falls into the half-open window of one lock that begins at `start`. -/
def LoginAttempt.inWindow (start : Nat) (attempt : LoginAttempt) : Bool :=
  decide (start ≤ attempt.checkedAt ∧ attempt.checkedAt < start + loginLock)

/-! ## One attempt -/

def LoginAttempt.counted (attempt : LoginAttempt) (user : User) (count : Nat) : User :=
  { user with
    failedLoginAttempts := count
    lockedUntil :=
      if maxFailedLoginAttempts ≤ count then some (attempt.countedAt + loginLock) else none }

/-- Every way in which an attempt changes the row of an active user. -/
inductive AttemptEffect (attempt : LoginAttempt) (user : User) : AttemptKind → User → Prop
  | refused (lockedUntil : Nat) (locked : user.lockedUntil = some lockedUntil)
      (held : attempt.checkedAt < lockedUntil) : AttemptEffect attempt user .refused user
  | wrong (unlocked : user.lockedUntil = none) :
      AttemptEffect attempt user .wrong (attempt.counted user (user.failedLoginAttempts + 1))
  | wrongAfterLock (lockedUntil : Nat) (locked : user.lockedUntil = some lockedUntil)
      (expired : lockedUntil ≤ attempt.checkedAt) :
      AttemptEffect attempt user .wrongAfterLock (attempt.counted user 1)
  | right :
      AttemptEffect attempt user .right { user with failedLoginAttempts := 0, lockedUntil := none }

/-- There is a lock exactly when five passwords were wrong. -/
structure LockoutSound (user : User) : Prop where
  active : user.status = .active
  bounded : user.failedLoginAttempts ≤ maxFailedLoginAttempts
  locked : user.lockedUntil ≠ none ↔ user.failedLoginAttempts = maxFailedLoginAttempts

variable {credentials} {attempt : LoginAttempt} {user : User}

theorem LoginAttempt.result_refused (active : user.status = .active) {lockedUntil : Nat}
    (locked : user.lockedUntil = some lockedUntil) (held : attempt.checkedAt < lockedUntil) :
    attempt.result credentials user = { user := some user, answer := .error invalidLogin } := by
  simp [LoginAttempt.result, login, active, locked, isExpired, held]

theorem LoginAttempt.effect (active : user.status = .active) :
    AttemptEffect attempt user (attempt.kind credentials user)
      (attempt.after credentials user) := by
  unfold LoginAttempt.kind
  cases locked : user.lockedUntil with
  | none =>
      cases valid : attempt.rightPassword credentials user with
      | true =>
          have after : attempt.after credentials user =
              { user with failedLoginAttempts := 0, lockedUntil := none } := by
            unfold LoginAttempt.rightPassword at valid
            cases found : attempt.membership <;>
              simp [LoginAttempt.after, LoginAttempt.result, login, active, locked, valid, found]
          rw [after]
          exact .right
      | false =>
          have after : attempt.after credentials user =
              attempt.counted user (user.failedLoginAttempts + 1) := by
            unfold LoginAttempt.rightPassword at valid
            by_cases reached : maxFailedLoginAttempts ≤ user.failedLoginAttempts + 1 <;>
              simp [LoginAttempt.after, LoginAttempt.result, login, active, locked, valid,
                LoginAttempt.counted, reached]
          rw [after]
          exact .wrong locked
  | some lockedUntil =>
      by_cases held : attempt.checkedAt < lockedUntil
      · have after : attempt.after credentials user = user := by
          rw [LoginAttempt.after, LoginAttempt.result_refused active locked held]
          rfl
        simp only [held, if_true, after]
        exact .refused lockedUntil locked held
      · have expired : lockedUntil ≤ attempt.checkedAt := Nat.not_lt.mp held
        simp only [held, if_false]
        cases valid : attempt.rightPassword credentials user with
        | true =>
            have after : attempt.after credentials user =
                { user with failedLoginAttempts := 0, lockedUntil := none } := by
              unfold LoginAttempt.rightPassword at valid
              cases found : attempt.membership <;>
                simp [LoginAttempt.after, LoginAttempt.result, login, active, locked, isExpired,
                  expired, valid, found]
            rw [after]
            exact .right
        | false =>
            have after : attempt.after credentials user = attempt.counted user 1 := by
              unfold LoginAttempt.rightPassword at valid
              simp [LoginAttempt.after, LoginAttempt.result, login, active, locked, isExpired,
                expired, valid, LoginAttempt.counted, maxFailedLoginAttempts]
            rw [after]
            exact .wrongAfterLock lockedUntil locked expired

theorem LockoutSound.after (sound : LockoutSound user) (attempt : LoginAttempt) :
    LockoutSound (attempt.after credentials user) := by
  have effect : AttemptEffect attempt user (attempt.kind credentials user)
      (attempt.after credentials user) := attempt.effect sound.active
  generalize attempt.kind credentials user = kind at effect
  generalize attempt.after credentials user = next at effect ⊢
  have bounded := sound.bounded
  cases effect with
  | refused => exact sound
  | wrong unlocked =>
      have below : user.failedLoginAttempts ≠ maxFailedLoginAttempts := by
        intro reached
        exact sound.locked.mpr reached unlocked
      constructor
      · exact sound.active
      · simp only [LoginAttempt.counted]
        omega
      · simp only [LoginAttempt.counted]
        split
        · simp only [ne_eq, reduceCtorEq, not_false_eq_true, true_iff]
          omega
        · simp only [ne_eq, not_true_eq_false, false_iff]
          omega
  | wrongAfterLock =>
      exact ⟨sound.active, by simp [LoginAttempt.counted, maxFailedLoginAttempts],
        by simp [LoginAttempt.counted, maxFailedLoginAttempts]⟩
  | right =>
      exact ⟨sound.active, by simp, by simp [maxFailedLoginAttempts]⟩

theorem LockoutSound.userAfter (sound : LockoutSound user) (attempts : List LoginAttempt) :
    LockoutSound (userAfter credentials user attempts) := by
  induction attempts generalizing user with
  | nil => exact sound
  | cons attempt attempts induction => exact induction (sound.after attempt)

theorem failedLoginAttempts_userAfter (sound : LockoutSound user)
    (attempts : List LoginAttempt) :
    (userAfter credentials user attempts).failedLoginAttempts =
      wrongStreak user.failedLoginAttempts
        ((loginHistory credentials user attempts).map (·.2)) := by
  induction attempts generalizing user with
  | nil => rfl
  | cons attempt attempts induction =>
      have effect : AttemptEffect attempt user (attempt.kind credentials user)
          (attempt.after credentials user) := attempt.effect sound.active
      have kept : LockoutSound (attempt.after credentials user) := sound.after attempt
      have later := induction kept
      simp only [EvalForge.userAfter, List.foldl_cons, loginHistory, List.map_cons] at later ⊢
      rw [later]
      generalize attempt.kind credentials user = kind at effect ⊢
      generalize attempt.after credentials user = next at effect ⊢
      cases effect <;> rfl

/-! ## The lock holds -/

theorem userAfter_locked (active : user.status = .active) {lockedUntil : Nat}
    (locked : user.lockedUntil = some lockedUntil) {attempts : List LoginAttempt}
    (held : ∀ attempt ∈ attempts, attempt.checkedAt < lockedUntil) :
    userAfter credentials user attempts = user := by
  induction attempts with
  | nil => rfl
  | cons attempt attempts induction =>
      have unchanged : attempt.after credentials user = user := by
        rw [LoginAttempt.after,
          LoginAttempt.result_refused active locked (held attempt List.mem_cons_self)]
        rfl
      rw [userAfter, List.foldl_cons, unchanged]
      exact induction fun other member => held other (List.mem_cons_of_mem _ member)

/-! ## Any window -/

def LoginAttempt.budget (start : Nat) (user : User) : Nat :=
  match user.lockedUntil with
  | none => maxFailedLoginAttempts - user.failedLoginAttempts
  | some lockedUntil => if start + loginLock ≤ lockedUntil then 0 else maxFailedLoginAttempts

def wrongInWindow (start : Nat) (history : List (LoginAttempt × AttemptKind)) : Nat :=
  history.countP fun entry => entry.1.inWindow start && entry.2.isWrong

theorem wrongInWindow_eq_zero {start : Nat} {attempts : List LoginAttempt}
    (outside : ∀ attempt ∈ attempts, attempt.inWindow start = false) :
    wrongInWindow start (loginHistory credentials user attempts) = 0 := by
  induction attempts generalizing user with
  | nil => rfl
  | cons attempt attempts induction =>
      have rest : wrongInWindow start
          (loginHistory credentials (attempt.after credentials user) attempts) = 0 :=
        induction fun other member => outside other (List.mem_cons_of_mem _ member)
      unfold wrongInWindow at rest ⊢
      simp [loginHistory, outside attempt List.mem_cons_self, rest]

theorem Serialised.tail {attempts : List LoginAttempt}
    (serialised : Serialised (attempt :: attempts)) : Serialised attempts where
  within other member := serialised.within other (List.mem_cons_of_mem _ member)
  between := (List.pairwise_cons.mp serialised.between).2

theorem Serialised.checkedAt_le {attempts : List LoginAttempt}
    (serialised : Serialised (attempt :: attempts)) :
    ∀ later ∈ attempts, attempt.checkedAt ≤ later.checkedAt := by
  intro later member
  calc attempt.checkedAt ≤ attempt.countedAt := serialised.within attempt List.mem_cons_self
    _ ≤ later.checkedAt := (List.pairwise_cons.mp serialised.between).1 later member

theorem LoginAttempt.budget_after (sound : LockoutSound user) {start : Nat}
    (begun : start ≤ attempt.checkedAt) (inside : attempt.checkedAt < start + loginLock)
    (within : attempt.checkedAt ≤ attempt.countedAt)
    (evaluated : attempt.kind credentials user ≠ .right) :
    LoginAttempt.budget start (attempt.after credentials user) +
        (if (attempt.kind credentials user).isWrong then 1 else 0) ≤
      LoginAttempt.budget start user := by
  have bounded := sound.bounded
  have effect : AttemptEffect attempt user (attempt.kind credentials user)
      (attempt.after credentials user) := attempt.effect sound.active
  generalize attempt.kind credentials user = kind at effect evaluated ⊢
  generalize attempt.after credentials user = next at effect ⊢
  cases effect with
  | refused => exact le_refl _
  | wrong unlocked =>
      have below : user.failedLoginAttempts ≠ maxFailedLoginAttempts := fun reached =>
        sound.locked.mpr reached unlocked
      simp only [LoginAttempt.budget, LoginAttempt.counted, unlocked, AttemptKind.isWrong, if_true]
      by_cases reached : maxFailedLoginAttempts ≤ user.failedLoginAttempts + 1
      · have ends : start + loginLock ≤ attempt.countedAt + loginLock := by omega
        simp only [reached, if_true, ends]
        omega
      · simp only [reached, if_false]
        omega
  | wrongAfterLock lockedUntil locked expired =>
      have early : ¬start + loginLock ≤ lockedUntil := by omega
      simp [LoginAttempt.budget, LoginAttempt.counted, locked, early, AttemptKind.isWrong,
        maxFailedLoginAttempts]
  | right => exact absurd rfl evaluated

theorem wrongInWindow_le_budget (sound : LockoutSound user) {start : Nat}
    {attempts : List LoginAttempt} (serialised : Serialised attempts)
    (started : ∀ attempt ∈ attempts, start ≤ attempt.checkedAt)
    (noRight : ∀ entry ∈ loginHistory credentials user attempts,
      entry.1.inWindow start = true → entry.2 ≠ .right) :
    wrongInWindow start (loginHistory credentials user attempts) ≤
      LoginAttempt.budget start user := by
  induction attempts generalizing user with
  | nil => exact Nat.zero_le _
  | cons attempt attempts induction =>
      have begun := started attempt List.mem_cons_self
      by_cases inside : attempt.checkedAt < start + loginLock
      · have window : attempt.inWindow start = true := by simp [LoginAttempt.inWindow, begun, inside]
        have rest := induction (sound.after attempt) serialised.tail
          (fun other member => started other (List.mem_cons_of_mem _ member))
          (fun entry member => noRight entry (List.mem_cons_of_mem _ member))
        have evaluated := noRight _ List.mem_cons_self window
        have step := LoginAttempt.budget_after sound begun inside
          (serialised.within attempt List.mem_cons_self) evaluated
        calc wrongInWindow start (loginHistory credentials user (attempt :: attempts)) =
              wrongInWindow start
                (loginHistory credentials (attempt.after credentials user) attempts) +
                if (attempt.kind credentials user).isWrong then 1 else 0 := by
              simp [wrongInWindow, loginHistory, List.countP_cons, window]
          _ ≤ LoginAttempt.budget start user := by omega
      · have outside : ∀ other ∈ attempt :: attempts, other.inWindow start = false := by
          intro other member
          have later : attempt.checkedAt ≤ other.checkedAt := by
            rcases List.mem_cons.mp member with rfl | member
            · exact le_refl _
            · exact serialised.checkedAt_le other member
          simp only [LoginAttempt.inWindow, decide_eq_false_iff_not]
          omega
        rw [wrongInWindow_eq_zero outside]
        exact Nat.zero_le _

theorem budget_le (start : Nat) (user : User) :
    LoginAttempt.budget start user ≤ maxFailedLoginAttempts := by
  unfold LoginAttempt.budget
  split
  · exact Nat.sub_le _ _
  · split
    · exact Nat.zero_le _
    · exact le_refl _

theorem wrongInWindow_le (sound : LockoutSound user) {start : Nat}
    {attempts : List LoginAttempt} (serialised : Serialised attempts)
    (noRight : ∀ entry ∈ loginHistory credentials user attempts,
      entry.1.inWindow start = true → entry.2 ≠ .right) :
    wrongInWindow start (loginHistory credentials user attempts) ≤ maxFailedLoginAttempts := by
  induction attempts generalizing user with
  | nil => exact Nat.zero_le _
  | cons attempt attempts induction =>
      by_cases begun : start ≤ attempt.checkedAt
      · have started : ∀ other ∈ attempt :: attempts, start ≤ other.checkedAt := by
          intro other member
          rcases List.mem_cons.mp member with rfl | member
          · exact begun
          · exact begun.trans (serialised.checkedAt_le other member)
        calc wrongInWindow start (loginHistory credentials user (attempt :: attempts)) ≤
              LoginAttempt.budget start user :=
              wrongInWindow_le_budget sound serialised started noRight
          _ ≤ maxFailedLoginAttempts := budget_le start user
      · have rest := induction (sound.after attempt) serialised.tail
          (fun entry member => noRight entry (List.mem_cons_of_mem _ member))
        have before : attempt.inWindow start = false := by
          simp only [LoginAttempt.inWindow, decide_eq_false_iff_not]
          omega
        simpa [wrongInWindow, loginHistory, List.countP_cons, before] using rest

/-! ## The fifth wrong password -/

theorem LoginAttempt.lockedUntil_fifth (sound : LockoutSound user)
    (wrong : (attempt.kind credentials user).isWrong = true)
    (fifth : (attempt.after credentials user).failedLoginAttempts = maxFailedLoginAttempts) :
    (attempt.after credentials user).lockedUntil = some (attempt.countedAt + loginLock) := by
  have effect : AttemptEffect attempt user (attempt.kind credentials user)
      (attempt.after credentials user) := attempt.effect sound.active
  generalize attempt.kind credentials user = kind at effect wrong
  generalize attempt.after credentials user = next at effect fifth ⊢
  cases effect with
  | refused => cases wrong
  | wrong =>
      simp only [LoginAttempt.counted] at fifth ⊢
      rw [if_pos fifth.ge]
  | wrongAfterLock => simp [LoginAttempt.counted, maxFailedLoginAttempts] at fifth
  | right => cases wrong

theorem userAfter_append (earlier later : List LoginAttempt) :
    userAfter credentials user (earlier ++ later) =
      userAfter credentials (userAfter credentials user earlier) later :=
  List.foldl_append

end Attempts

/-- After the fifth wrong password in a row, attempts in the next fifteen
minutes fail and change nothing. No window of fifteen minutes in which no right
password is evaluated evaluates more than five wrong ones. The counter stays
within five, and only five set a lock. -/
theorem login_lockout (credentials : Credentials) (user : User) (active : user.status = .active)
    (noFailures : user.failedLoginAttempts = 0) (unlocked : user.lockedUntil = none)
    (attempts : List LoginAttempt) (serialised : Serialised attempts) :
    (∀ before attempt skipped later rest,
      attempts = before ++ attempt :: (skipped ++ later :: rest) →
      (attempt.kind credentials (userAfter credentials user before)).isWrong = true →
      wrongStreak 0 ((loginHistory credentials user (before ++ [attempt])).map (·.2)) = 5 →
      later.checkedAt < attempt.countedAt + loginLock →
      later.result credentials (userAfter credentials user (before ++ attempt :: skipped)) =
          { user := some (userAfter credentials user (before ++ attempt :: skipped))
            answer := .error invalidLogin } ∧
        (userAfter credentials user (before ++ attempt :: skipped)).lockedUntil =
          some (attempt.countedAt + loginLock)) ∧
    (∀ start,
      (∀ entry ∈ loginHistory credentials user attempts,
        entry.1.inWindow start = true → entry.2 ≠ .right) →
      wrongInWindow start (loginHistory credentials user attempts) ≤ 5) ∧
    ∀ before, before <+: attempts →
      (userAfter credentials user before).failedLoginAttempts ≤ 5 ∧
        ((userAfter credentials user before).lockedUntil ≠ none →
          (userAfter credentials user before).failedLoginAttempts = 5) := by
  have sound : LockoutSound user :=
    ⟨active, by simp [noFailures], by simp [noFailures, unlocked, maxFailedLoginAttempts]⟩
  refine ⟨?_, ?_, ?_⟩
  · intro before attempt skipped later rest split wrong streak early
    have earlier : LockoutSound (userAfter credentials user before) := sound.userAfter before
    have counter : (userAfter credentials user (before ++ [attempt])).failedLoginAttempts =
        wrongStreak user.failedLoginAttempts
          ((loginHistory credentials user (before ++ [attempt])).map (·.2)) :=
      failedLoginAttempts_userAfter sound (before ++ [attempt])
    rw [noFailures, streak, userAfter_append] at counter
    have locked := LoginAttempt.lockedUntil_fifth earlier wrong counter
    have skippedEarly : ∀ other ∈ skipped,
        other.checkedAt < attempt.countedAt + loginLock := by
      intro other member
      have within := serialised.within other (by simp [split, member])
      have order : other.countedAt ≤ later.checkedAt := by
        have pairs := serialised.between
        rw [split] at pairs
        have tail := (List.pairwise_cons.mp (List.pairwise_append.mp pairs).2.1).2
        exact (List.pairwise_append.mp tail).2.2 other member later List.mem_cons_self
      omega
    have unchanged : userAfter credentials user (before ++ attempt :: skipped) =
        attempt.after credentials (userAfter credentials user before) := by
      rw [userAfter_append, userAfter, List.foldl_cons]
      exact userAfter_locked (earlier.after attempt).active locked skippedEarly
    rw [unchanged]
    exact ⟨LoginAttempt.result_refused (earlier.after attempt).active locked early, locked⟩
  · exact fun start noRight => wrongInWindow_le sound serialised noRight
  · intro before _
    have kept : LockoutSound (userAfter credentials user before) := sound.userAfter before
    exact ⟨kept.bounded, kept.locked.mp⟩

namespace Scenario

def credentials : Credentials where
  verifyPassword password encoded := password == encoded
  hashToken token := token
  dummyPasswordHash := "dummy"

def user : User where
  id := "user-1"
  email := "owner@example.com"
  displayName := "Owner"
  passwordHash := some "right-password"
  createdAt := 0

def attemptAt (instant : Nat) (password : String) : LoginAttempt where
  checkedAt := instant
  countedAt := instant
  membership := none
  payload := { email := "owner@example.com", password, organizationSlug := none }

def wrongAttempts : List LoginAttempt :=
  [attemptAt 1 "first", attemptAt 2 "second", attemptAt 3 "third", attemptAt 4 "fourth"]

def lockingAttempts : List LoginAttempt :=
  wrongAttempts ++ attemptAt 5 "fifth" :: ([] ++ [attemptAt 6 "right-password"])

theorem serialised_lockingAttempts : Serialised lockingAttempts where
  within := by simp [lockingAttempts, wrongAttempts, attemptAt]
  between := by simp [lockingAttempts, wrongAttempts, attemptAt]

end Scenario

theorem login_lockout_scenario :
    ((Scenario.attemptAt 6 "right-password").result Scenario.credentials
        (userAfter Scenario.credentials Scenario.user
          (Scenario.wrongAttempts ++ [Scenario.attemptAt 5 "fifth"]))).answer =
      .error invalidLogin := by
  have locked := (login_lockout Scenario.credentials Scenario.user rfl rfl rfl
    Scenario.lockingAttempts Scenario.serialised_lockingAttempts).1 Scenario.wrongAttempts
    (Scenario.attemptAt 5 "fifth") [] (Scenario.attemptAt 6 "right-password") [] rfl
    (by decide +kernel) (by decide +kernel) (by decide +kernel)
  rw [locked.1]

end EvalForge
