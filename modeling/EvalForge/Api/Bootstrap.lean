import EvalForge.Core.Auth
import EvalForge.Foundation.Transitions
import EvalForge.Schemas.Auth

/-! # Bootstrap

The handler, and any number of its transactions side by side. A statement sees
what is committed; an insert waits while another transaction holds an
uncommitted row with the same unique key.
-/

namespace EvalForge

open Foundation

structure BootstrapRequest where
  payload : BootstrapCreate
  bootstrapToken : Option String
  readings : RequestReadings

def checkBootstrapToken (settings : Settings) (bootstrapToken : Option String) :
    Except HttpError Unit :=
  match truthy settings.bootstrapToken, truthy bootstrapToken with
  | some expected, some bootstrapToken =>
      match compareDigest bootstrapToken expected with
      | none => .error internalServerError
      | some true => .ok ()
      | some false => .error (httpError 403 "Valid bootstrap token required")
  | _, _ => .error (httpError 403 "Valid bootstrap token required")

structure BootstrapContext where
  settings : Settings
  credentials : Credentials
  hashPassword : String → String → String

namespace BootstrapRequest

def newOrganization (request : BootstrapRequest) : Organization where
  id := request.readings.newUuid 0
  name := request.payload.organizationName
  slug := request.payload.organizationSlug
  createdAt := request.readings.utcNow 0

def newUser (context : BootstrapContext) (request : BootstrapRequest) : User where
  id := request.readings.newUuid 1
  email := request.payload.email
  displayName := request.payload.displayName
  passwordHash := some (context.hashPassword request.payload.password request.readings.salt)
  createdAt := request.readings.utcNow 1

def newMembership (request : BootstrapRequest) (organization : Organization) : Membership where
  organizationId := organization.id
  userId := request.readings.newUuid 1
  role := .owner
  createdAt := request.readings.utcNow 2

def sessionToken (context : BootstrapContext) (request : BootstrapRequest) : String × String × Nat :=
  newSessionToken context.credentials context.settings.sessionTtlHours
    (request.readings.utcNow 3) request.readings

def newSession (context : BootstrapContext) (request : BootstrapRequest)
    (organization : Organization) : AuthSession where
  id := request.readings.newUuid 2
  userId := request.readings.newUuid 1
  organizationId := organization.id
  tokenHash := (request.sessionToken context).2.1
  expiresAt := (request.sessionToken context).2.2
  createdAt := request.readings.utcNow 2

def token (context : BootstrapContext) (request : BootstrapRequest)
    (organization : Organization) : TokenRead where
  user := some (request.newUser context).read
  organization := organization
  role := .owner
  authenticationType := .session
  accessToken := (request.sessionToken context).1
  expiresAt := (request.sessionToken context).2.2

end BootstrapRequest

def bootstrapCompleted : HttpError := httpError 409 "Bootstrap has already been completed"

/-! ## One transaction -/

/-- The next statement. `created` tells whether the organization is new. -/
inductive BootstrapPhase
  | counting
  | lookingUp
  | insertingOrganization
  | insertingUser (organization : Organization) (created : Bool)
  | insertingMembership (organization : Organization) (created : Bool)
  | committing (organization : Organization) (created : Bool)
  | answered (answer : Except HttpError TokenRead)

structure BootstrapTransaction where
  request : BootstrapRequest
  phase : BootstrapPhase := .counting

namespace BootstrapTransaction

section

variable (context : BootstrapContext) (request : BootstrapRequest)

def organizationWrites (organization : Organization) (created : Bool) : List Write :=
  if created then [.insertOrganization organization] else []

def userWrites (organization : Organization) (created : Bool) : List Write :=
  organizationWrites organization created ++ [.insertUser (request.newUser context)]

def allWrites (organization : Organization) (created : Bool) : List Write :=
  userWrites context request organization created ++
    [.insertMembership (request.newMembership organization),
      .insertAuthSession (request.newSession context organization)]

end

/-- The rows that are flushed and not committed. -/
def uncommitted (context : BootstrapContext) (transaction : BootstrapTransaction) : List Write :=
  match transaction.phase with
  | .insertingUser organization created => organizationWrites organization created
  | .insertingMembership organization created =>
      userWrites context transaction.request organization created
  | .committing organization created =>
      allWrites context transaction.request organization created
  | .counting | .lookingUp | .insertingOrganization | .answered _ => []

def succeeded (transaction : BootstrapTransaction) : Bool :=
  match transaction.phase with
  | .answered (.ok _) => true
  | _ => false

end BootstrapTransaction

def Write.collides : Write → Write → Bool
  | .insertOrganization row, .insertOrganization other => row.conflicts other
  | .insertUser row, .insertUser other => row.conflicts other
  | .insertMembership row, .insertMembership other => row.conflicts other
  | .insertAuthSession row, .insertAuthSession other => row.conflicts other
  | _, _ => false

section

variable (context : BootstrapContext)

/-- Flush the writes with which a phase begins. It waits for the colliding rows
of other transactions, and a stored one ends the transaction. -/
def flushBootstrap (db : Database) (others before : List Write)
    (inserts : List Write) (next : BootstrapPhase) : Option BootstrapPhase :=
  if inserts.any (fun write => others.any write.collides) then none
  else
    match db.commit (before ++ inserts) with
    | some _ => some next
    | none => some (.answered (.error internalServerError))

/-- The next statement of a transaction, among the uncommitted rows of the
others. -/
def BootstrapTransaction.next (transaction : BootstrapTransaction) (db : Database)
    (others : List Write) : Option (Database × BootstrapPhase) :=
  let request := transaction.request
  let flush := flushBootstrap db others (transaction.uncommitted context)
  match transaction.phase with
  | .counting =>
      match checkBootstrapToken context.settings request.bootstrapToken with
      | .error error => some (db, .answered (.error error))
      | .ok () =>
          if db.users.length ≠ 0 then some (db, .answered (.error bootstrapCompleted))
          else some (db, .lookingUp)
  | .lookingUp =>
      match db.organizations.find? (·.slug == request.payload.organizationSlug) with
      | some organization => some (db, .insertingUser organization false)
      | none => some (db, .insertingOrganization)
  | .insertingOrganization =>
      (flush [.insertOrganization request.newOrganization]
        (.insertingUser request.newOrganization true)).map (db, ·)
  | .insertingUser organization created =>
      (flush [.insertUser (request.newUser context)]
        (.insertingMembership organization created)).map (db, ·)
  | .insertingMembership organization created =>
      (flush [.insertMembership (request.newMembership organization),
          .insertAuthSession (request.newSession context organization)]
        (.committing organization created)).map (db, ·)
  | .committing organization _ =>
      match db.commit (transaction.uncommitted context) with
      | some next => some (next, .answered (.ok (request.token context organization)))
      | none => some (db, .answered (.error internalServerError))
  | .answered _ => none

end

def bootstrap (context : BootstrapContext) (db : Database) (request : BootstrapRequest) :
    Reply TokenRead :=
  match checkBootstrapToken context.settings request.bootstrapToken with
  | .error error => { answer := .error error }
  | .ok () =>
      if db.users.length ≠ 0 then { answer := .error bootstrapCompleted }
      else
        let (organization, created) :=
          match db.organizations.find? (·.slug == request.payload.organizationSlug) with
          | some organization => (organization, false)
          | none => (request.newOrganization, true)
        { writes := BootstrapTransaction.allWrites context request organization created
          answer := .ok (request.token context organization) }

/-! ## The system -/

structure BootstrapSystem where
  db : Database
  transactions : List BootstrapTransaction

namespace BootstrapSystem

variable (context : BootstrapContext)

def start (db : Database) (requests : List BootstrapRequest) : BootstrapSystem where
  db := db
  transactions := requests.map fun request => { request }

def others (system : BootstrapSystem) (index : Nat) : List Write :=
  (system.transactions.eraseIdx index).flatMap (·.uncommitted context)

def step (system : BootstrapSystem) (index : Nat) : Option BootstrapSystem := do
  let transaction ← system.transactions[index]?
  let (db, phase) ← transaction.next context system.db (system.others context index)
  return { db, transactions := system.transactions.set index { transaction with phase } }

end BootstrapSystem

def Database.IsOwner (db : Database) (user : User) : Prop :=
  user ∈ db.users ∧ ∃ membership ∈ db.memberships,
    membership.userId = user.id ∧ membership.role = .owner

structure BootstrappedOnce (initial : Database) (system : BootstrapSystem) : Prop where
  answers : system.transactions.countP (·.succeeded) ≤ 1
  owners : ∀ user other, system.db.IsOwner user → ¬initial.IsOwner user →
    system.db.IsOwner other → ¬initial.IsOwner other → user = other

/-! ## What a commit leaves -/

section

variable {context : BootstrapContext} {request : BootstrapRequest}
variable {organization : Organization} {created : Bool}

structure BootstrapRequest.Unconflicted (context : BootstrapContext) (request : BootstrapRequest)
    (organization : Organization) (created : Bool) (db : Database) : Prop where
  stored : created = false → db.hasOrganization organization.id = true
  organizations : created = true →
    ∀ stored ∈ db.organizations, organization.conflicts stored = false
  users : ∀ stored ∈ db.users, (request.newUser context).conflicts stored = false
  memberships : ∀ stored ∈ db.memberships,
    (request.newMembership organization).conflicts stored = false
  sessions : ∀ stored ∈ db.authSessions,
    (request.newSession context organization).conflicts stored = false

def Database.bootstrapped (db : Database) (context : BootstrapContext)
    (request : BootstrapRequest) (organization : Organization) (created : Bool) : Database :=
  { db with
    organizations := db.organizations ++ if created then [organization] else []
    users := db.users ++ [request.newUser context]
    memberships := db.memberships ++ [request.newMembership organization]
    authSessions := db.authSessions ++ [request.newSession context organization] }

theorem commit_allWrites_iff {db next : Database} :
    db.commit (BootstrapTransaction.allWrites context request organization created) = some next ↔
      request.Unconflicted context organization created db ∧
        next = db.bootstrapped context request organization created := by
  have member : ∀ stored : List User, (stored ++ [request.newUser context]).any
      (·.id == (request.newMembership organization).userId) = true := by
    intro stored
    simp [BootstrapRequest.newUser, BootstrapRequest.newMembership]
  cases created with
  | true =>
      have inserted : ∀ stored : List Organization,
          (stored ++ [organization]).any (·.id == organization.id) = true := by simp
      simp only [BootstrapTransaction.allWrites, BootstrapTransaction.userWrites,
        BootstrapTransaction.organizationWrites, if_true, List.cons_append, List.nil_append,
        Database.commit, Database.apply, Option.bind_eq_bind, Option.bind_eq_some_iff,
        insertUnique_eq_some_iff, insertReferencing_eq_some_iff, Database.hasOrganization,
        Database.hasUser, Bool.and_eq_true, pure, Option.some.injEq]
      constructor
      · rintro ⟨_, ⟨_, ⟨organizations, rfl⟩, rfl⟩, _, ⟨_, ⟨users, rfl⟩, rfl⟩, _,
          ⟨_, ⟨-, memberships, rfl⟩, rfl⟩, _, ⟨_, ⟨-, sessions, rfl⟩, rfl⟩, rfl⟩
        exact ⟨⟨by simp, fun _ => organizations, users, memberships, sessions⟩, rfl⟩
      · rintro ⟨free, rfl⟩
        exact ⟨_, ⟨_, ⟨free.organizations rfl, rfl⟩, rfl⟩, _, ⟨_, ⟨free.users, rfl⟩, rfl⟩, _,
          ⟨_, ⟨⟨inserted _, member _⟩, free.memberships, rfl⟩, rfl⟩, _,
          ⟨_, ⟨⟨inserted _, member _⟩, free.sessions, rfl⟩, rfl⟩, rfl⟩
  | false =>
      simp only [BootstrapTransaction.allWrites, BootstrapTransaction.userWrites,
        BootstrapTransaction.organizationWrites, Bool.false_eq_true, if_false,
        List.cons_append, List.nil_append,
        Database.commit, Database.apply, Option.bind_eq_bind, Option.bind_eq_some_iff,
        insertUnique_eq_some_iff, insertReferencing_eq_some_iff, Database.hasOrganization,
        Database.hasUser, Bool.and_eq_true, pure, Option.some.injEq]
      constructor
      · rintro ⟨_, ⟨_, ⟨users, rfl⟩, rfl⟩, _, ⟨_, ⟨⟨stored, -⟩, memberships, rfl⟩, rfl⟩, _,
          ⟨_, ⟨-, sessions, rfl⟩, rfl⟩, rfl⟩
        exact ⟨⟨fun _ => stored, by simp, users, memberships, sessions⟩,
          by simp [Database.bootstrapped]⟩
      · rintro ⟨free, rfl⟩
        refine ⟨_, ⟨_, ⟨free.users, rfl⟩, rfl⟩, _,
          ⟨_, ⟨⟨free.stored rfl, member _⟩, free.memberships, rfl⟩, rfl⟩, _,
          ⟨_, ⟨⟨free.stored rfl, member _⟩, free.sessions, rfl⟩, rfl⟩, ?_⟩
        simp [Database.bootstrapped]

end

/-! ## One statement -/

section

variable {context : BootstrapContext} {transaction : BootstrapTransaction}
variable {db nextDb : Database} {others : List Write} {phase : BootstrapPhase}

theorem BootstrapTransaction.next_cases
    (stepped : transaction.next context db others = some (nextDb, phase)) :
    (nextDb = db ∧ ({ transaction with phase } : BootstrapTransaction).succeeded = false) ∨
    ∃ organization created, transaction.phase = .committing organization created ∧
      transaction.request.Unconflicted context organization created db ∧
      nextDb = db.bootstrapped context transaction.request organization created ∧
      phase = .answered (.ok (transaction.request.token context organization)) := by
  have flushed : ∀ before inserts next,
      ({ transaction with phase := next } : BootstrapTransaction).succeeded = false →
      (flushBootstrap db others before inserts next).map (db, ·) = some (nextDb, phase) →
      nextDb = db ∧ ({ transaction with phase } : BootstrapTransaction).succeeded = false := by
    intro before inserts next unanswered flushed
    rcases Option.map_eq_some_iff.mp flushed with ⟨reached, result, equal⟩
    cases equal
    refine ⟨rfl, ?_⟩
    unfold flushBootstrap at result
    split at result
    · cases result
    · split at result
      · cases result
        exact unanswered
      · cases result
        rfl
  unfold next at stepped
  simp only [] at stepped
  split at stepped
  · left
    split at stepped
    · cases stepped
      exact ⟨rfl, rfl⟩
    · split at stepped
      · cases stepped
        exact ⟨rfl, rfl⟩
      · cases stepped
        exact ⟨rfl, rfl⟩
  · left
    split at stepped
    · cases stepped
      exact ⟨rfl, rfl⟩
    · cases stepped
      exact ⟨rfl, rfl⟩
  · exact .inl (flushed _ _ _ rfl stepped)
  · exact .inl (flushed _ _ _ rfl stepped)
  · exact .inl (flushed _ _ _ rfl stepped)
  · next organization created committing =>
      split at stepped
      · next committed =>
          cases stepped
          right
          have all : transaction.uncommitted context =
              allWrites context transaction.request organization created := by
            simp only [uncommitted, committing]
          rw [all] at committed
          rcases commit_allWrites_iff.mp committed with ⟨free, equal⟩
          exact ⟨organization, created, committing, free, equal, rfl⟩
      · cases stepped
        exact .inl ⟨rfl, rfl⟩
  · cases stepped

theorem BootstrapTransaction.next_counting (counting : transaction.phase = .counting)
    (populated : db.users ≠ [])
    (stepped : transaction.next context db others = some (nextDb, phase)) :
    nextDb = db ∧ ∃ error, phase = .answered (.error error) := by
  unfold next at stepped
  simp only [counting] at stepped
  split at stepped
  · cases stepped
    exact ⟨rfl, _, rfl⟩
  · rw [if_pos (by simpa using populated)] at stepped
    cases stepped
    exact ⟨rfl, _, rfl⟩

end

theorem BootstrapSystem.step_some {context : BootstrapContext} {system next : BootstrapSystem}
    {index : Nat} (stepped : system.step context index = some next) :
    ∃ transaction phase, system.transactions[index]? = some transaction ∧
      transaction.next context system.db (system.others context index) = some (next.db, phase) ∧
      next.transactions = system.transactions.set index { transaction with phase } := by
  unfold step at stepped
  rcases Option.bind_eq_some_iff.mp stepped with ⟨transaction, present, rest⟩
  rcases Option.bind_eq_some_iff.mp rest with ⟨⟨db, phase⟩, moved, result⟩
  cases result
  exact ⟨transaction, phase, present, moved, rfl⟩

/-! ## When it succeeds at most once -/

/-- Nobody got past the count. -/
structure BootstrapClosed (initial : Database) (system : BootstrapSystem) : Prop where
  db : system.db = initial
  phases : ∀ transaction ∈ system.transactions, transaction.phase = .counting ∨
    ∃ error, transaction.phase = .answered (.error error)

theorem BootstrapClosed.step {context : BootstrapContext} {initial : Database}
    (populated : initial.users ≠ []) {system next : BootstrapSystem} {index : Nat}
    (closed : BootstrapClosed initial system)
    (stepped : system.step context index = some next) : BootstrapClosed initial next := by
  rcases BootstrapSystem.step_some stepped with ⟨transaction, phase, present, moved, updated⟩
  rcases closed.phases transaction (List.mem_of_getElem? present) with counting | ⟨error, answered⟩
  · have refused := BootstrapTransaction.next_counting counting (by rwa [closed.db]) moved
    refine ⟨refused.1.trans closed.db, ?_⟩
    intro other member
    rw [updated] at member
    rcases List.mem_or_eq_of_mem_set member with member | rfl
    · exact closed.phases other member
    · exact .inr refused.2
  · unfold BootstrapTransaction.next at moved
    simp only [answered] at moved
    cases moved

theorem BootstrapClosed.once {initial : Database} {system : BootstrapSystem}
    (closed : BootstrapClosed initial system) : BootstrappedOnce initial system where
  answers := by
    have unsuccessful : system.transactions.countP (·.succeeded) = 0 := by
      rw [List.countP_eq_zero]
      intro transaction member
      rcases closed.phases transaction member with counting | ⟨error, answered⟩
      · simp [BootstrapTransaction.succeeded, counting]
      · simp [BootstrapTransaction.succeeded, answered]
    omega
  owners user other owner notBefore := by
    rw [closed.db] at owner
    exact absurd owner notBefore

/-- All requests carry one email, and at most one of them has committed. -/
structure BootstrapShared (email : String) (initial : Database) (system : BootstrapSystem) : Prop where
  emails : ∀ transaction ∈ system.transactions, transaction.request.payload.email = email
  outcome : (system.db = initial ∧ system.transactions.countP (·.succeeded) = 0) ∨
    ∃ user membership, user.email = email ∧ membership.userId = user.id ∧
      (∀ stored ∈ initial.users, stored.id ≠ user.id) ∧
      system.db.users = initial.users ++ [user] ∧
      system.db.memberships = initial.memberships ++ [membership] ∧
      system.transactions.countP (·.succeeded) = 1

theorem countP_set_of_unselected {Row : Type} (selected : Row → Bool) {rows : List Row}
    {index : Nat} {replaced : Row} (present : rows[index]? = some replaced)
    (unselected : selected replaced = false) (row : Row) :
    (rows.set index row).countP selected =
      rows.countP selected + if selected row then 1 else 0 := by
  rcases List.getElem?_eq_some_iff.mp present with ⟨bound, equal⟩
  rw [List.countP_set bound, equal, unselected]
  simp

theorem BootstrapTransaction.not_succeeded_of_next {context : BootstrapContext}
    {transaction : BootstrapTransaction} {db : Database} {others : List Write}
    {result : Database × BootstrapPhase}
    (stepped : transaction.next context db others = some result) :
    transaction.succeeded = false := by
  unfold succeeded
  split
  · next answered =>
      unfold next at stepped
      simp only [answered] at stepped
      cases stepped
  · rfl

theorem BootstrapShared.step {context : BootstrapContext} {email : String} {initial : Database}
    {system next : BootstrapSystem} {index : Nat} (shared : BootstrapShared email initial system)
    (stepped : system.step context index = some next) : BootstrapShared email initial next := by
  rcases BootstrapSystem.step_some stepped with ⟨transaction, phase, present, moved, updated⟩
  have member := List.mem_of_getElem? present
  have before := BootstrapTransaction.not_succeeded_of_next moved
  refine ⟨?_, ?_⟩
  · intro other otherMember
    rw [updated] at otherMember
    rcases List.mem_or_eq_of_mem_set otherMember with otherMember | rfl
    · exact shared.emails other otherMember
    · exact shared.emails transaction member
  have count := countP_set_of_unselected BootstrapTransaction.succeeded present before
    { transaction with phase }
  rw [← updated] at count
  rcases BootstrapTransaction.next_cases moved with ⟨sameDb, unanswered⟩ |
    ⟨organization, created, -, free, committed, answered⟩
  · rw [unanswered] at count
    rw [sameDb, count]
    exact shared.outcome
  · have answer : ({ transaction with phase } : BootstrapTransaction).succeeded = true := by
      rw [answered]
      rfl
    rw [answer] at count
    have sameEmail : (transaction.request.newUser context).email = email :=
      shared.emails transaction member
    rcases shared.outcome with ⟨unchanged, unsuccessful⟩ |
      ⟨user, membership, userEmail, -, -, users, -, -⟩
    · right
      rw [unchanged] at committed free
      refine ⟨transaction.request.newUser context,
        transaction.request.newMembership organization, sameEmail, rfl, ?_, ?_, ?_, ?_⟩
      · intro stored storedMember equal
        have conflict := free.users stored storedMember
        simp [User.conflicts, equal] at conflict
      · rw [committed]
        rfl
      · rw [committed]
        rfl
      · rw [count, unsuccessful]
        rfl
    · -- The email of the user who is already stored refuses this commit.
      have conflict := free.users user (by simp [users])
      simp [User.conflicts, sameEmail, userEmail] at conflict

theorem BootstrapShared.once {email : String} {initial : Database} {system : BootstrapSystem}
    (shared : BootstrapShared email initial system) : BootstrappedOnce initial system := by
  rcases shared.outcome with ⟨unchanged, unsuccessful⟩ |
    ⟨user, membership, -, member, fresh, users, memberships, one⟩
  · refine ⟨by omega, ?_⟩
    intro user other owner notBefore
    rw [unchanged] at owner
    exact absurd owner notBefore
  · have newOwner : ∀ owner, system.db.IsOwner owner → ¬initial.IsOwner owner → owner = user := by
      rintro owner ⟨listed, held, heldMember, identified, role⟩ notBefore
      rw [users] at listed
      rcases List.mem_append.mp listed with stored | last
      · exfalso
        rw [memberships] at heldMember
        rcases List.mem_append.mp heldMember with storedMembership | lastMembership
        · exact notBefore ⟨stored, held, storedMembership, identified, role⟩
        · rw [List.mem_singleton.mp lastMembership, member] at identified
          exact fresh owner stored identified.symm
      · exact List.mem_singleton.mp last
    refine ⟨by omega, ?_⟩
    intro owner other ownerNow ownerBefore otherNow otherBefore
    rw [newOwner owner ownerNow ownerBefore, newOwner other otherNow otherBefore]

/-! ## When it succeeds twice -/

section

variable {context : BootstrapContext}

def BootstrapSystem.moved (system : BootstrapSystem) (index : Nat)
    (transaction : BootstrapTransaction) (db : Database) (phase : BootstrapPhase) :
    BootstrapSystem where
  db := db
  transactions := system.transactions.set index { transaction with phase }

theorem BootstrapSystem.step_alone {system : BootstrapSystem} {index : Nat}
    {transaction : BootstrapTransaction} {db : Database} {phase : BootstrapPhase}
    (present : system.transactions[index]? = some transaction)
    (alone : system.others context index = [])
    (next : transaction.next context system.db [] = some (db, phase)) :
    system.step context index = some (system.moved index transaction db phase) := by
  simp [step, present, alone, next, moved]

theorem BootstrapSystem.step_moved {system : BootstrapSystem} {index : Nat}
    {transaction : BootstrapTransaction} {db nextDb : Database} {phase nextPhase : BootstrapPhase}
    (bound : index < system.transactions.length) (alone : system.others context index = [])
    (next : ({ transaction with phase } : BootstrapTransaction).next context db [] =
      some (nextDb, nextPhase)) :
    (system.moved index transaction db phase).step context index =
      some (system.moved index transaction nextDb nextPhase) := by
  have still : (system.moved index transaction db phase).others context index = [] := by
    rw [← alone]
    simp only [others, moved, List.eraseIdx_set_eq]
  rw [step_alone (List.getElem?_set_self bound) still next]
  simp [moved]

theorem flushBootstrap_alone {db final : Database} (before inserts rest : List Write)
    (committed : db.commit (before ++ inserts ++ rest) = some final) (next : BootstrapPhase) :
    flushBootstrap db [] before inserts next = some next := by
  unfold flushBootstrap
  rw [if_neg (by simp)]
  rw [Database.commit_append] at committed
  rcases Option.bind_eq_some_iff.mp committed with ⟨middle, flushed, -⟩
  simp [flushed]

def BootstrapRequest.Chooses (request : BootstrapRequest) (db : Database)
    (organization : Organization) (created : Bool) : Prop :=
  match db.organizations.find? (·.slug == request.payload.organizationSlug) with
  | some stored => organization = stored ∧ created = false
  | none => organization = request.newOrganization ∧ created = true

theorem BootstrapSystem.run_insertingUser_alone {system : BootstrapSystem} {index : Nat}
    {transaction : BootstrapTransaction}
    (bound : index < system.transactions.length) (alone : system.others context index = [])
    {db : Database} {organization : Organization} {created : Bool}
    (free : transaction.request.Unconflicted context organization created db) :
    run (step context) (system.moved index transaction db (.insertingUser organization created))
      [index, index, index] = some (system.moved index transaction
        (db.bootstrapped context transaction.request organization created)
        (.answered (.ok (transaction.request.token context organization)))) := by
  have committed := commit_allWrites_iff.mpr ⟨free, rfl⟩
  have user : ({ transaction with phase := .insertingUser organization created } :
      BootstrapTransaction).next context db [] =
        some (db, .insertingMembership organization created) := by
    have flushed := flushBootstrap_alone
      (BootstrapTransaction.organizationWrites organization created)
      [.insertUser (transaction.request.newUser context)] _ committed
      (.insertingMembership organization created)
    simp only [BootstrapTransaction.next, BootstrapTransaction.uncommitted, flushed,
      Option.map_some]
  have membership : ({ transaction with phase := .insertingMembership organization created } :
      BootstrapTransaction).next context db [] = some (db, .committing organization created) := by
    have flushed := flushBootstrap_alone
      (BootstrapTransaction.userWrites context transaction.request organization created) _ []
      (by simpa [BootstrapTransaction.allWrites] using committed) (.committing organization created)
    simp only [BootstrapTransaction.next, BootstrapTransaction.uncommitted, flushed,
      Option.map_some]
  have commit : ({ transaction with phase := .committing organization created } :
      BootstrapTransaction).next context db [] =
        some (db.bootstrapped context transaction.request organization created,
          .answered (.ok (transaction.request.token context organization))) := by
    simp only [BootstrapTransaction.next, BootstrapTransaction.uncommitted, committed]
  simp only [run, step_moved bound alone user, step_moved bound alone membership,
    step_moved bound alone commit, Option.bind_some]

theorem BootstrapSystem.run_alone {system : BootstrapSystem} {index : Nat}
    {transaction : BootstrapTransaction}
    (bound : index < system.transactions.length) (alone : system.others context index = [])
    {db : Database} {organization : Organization} {created : Bool}
    (chooses : transaction.request.Chooses db organization created)
    (free : transaction.request.Unconflicted context organization created db) :
    ∃ actions, run (step context) (system.moved index transaction db .lookingUp) actions =
      some (system.moved index transaction
        (db.bootstrapped context transaction.request organization created)
        (.answered (.ok (transaction.request.token context organization)))) := by
  have finish := run_insertingUser_alone bound alone free
  unfold BootstrapRequest.Chooses at chooses
  cases stored : db.organizations.find? (·.slug == transaction.request.payload.organizationSlug) with
  | some found =>
      rw [stored] at chooses
      rcases chooses with ⟨rfl, rfl⟩
      have lookup : ({ transaction with phase := .lookingUp } : BootstrapTransaction).next
          context db [] = some (db, .insertingUser organization false) := by
        simp only [BootstrapTransaction.next, stored]
      refine ⟨[index] ++ [index, index, index], run_trans ?_ finish⟩
      simp only [run, step_moved bound alone lookup, Option.bind_some]
  | none =>
      rw [stored] at chooses
      rcases chooses with ⟨rfl, rfl⟩
      have lookup : ({ transaction with phase := .lookingUp } : BootstrapTransaction).next
          context db [] = some (db, .insertingOrganization) := by
        simp only [BootstrapTransaction.next, stored]
      have insert : ({ transaction with phase := .insertingOrganization } :
          BootstrapTransaction).next context db [] =
            some (db, .insertingUser transaction.request.newOrganization true) := by
        have flushed := flushBootstrap_alone []
          [.insertOrganization transaction.request.newOrganization] _
          (commit_allWrites_iff.mpr ⟨free, rfl⟩)
          (.insertingUser transaction.request.newOrganization true)
        simp only [BootstrapTransaction.next, BootstrapTransaction.uncommitted, flushed,
          Option.map_some]
      refine ⟨[index, index] ++ [index, index, index], run_trans ?_ finish⟩
      simp only [run, step_moved bound alone lookup, step_moved bound alone insert,
        Option.bind_some]

/-! ### Fresh readings -/

structure BootstrapRequest.Fresh (context : BootstrapContext) (request : BootstrapRequest)
    (db : Database) : Prop where
  organizations : ∀ stored ∈ db.organizations, request.readings.newUuid 0 ≠ stored.id
  users : ∀ stored ∈ db.users, request.readings.newUuid 1 ≠ stored.id
  memberships : ∀ stored ∈ db.memberships, request.readings.newUuid 1 ≠ stored.userId
  sessions : ∀ stored ∈ db.authSessions, request.readings.newUuid 2 ≠ stored.id ∧
    (request.sessionToken context).2.1 ≠ stored.tokenHash

structure BootstrapRequest.Distinct (context : BootstrapContext)
    (request other : BootstrapRequest) : Prop where
  organizations : request.readings.newUuid 0 ≠ other.readings.newUuid 0
  users : request.readings.newUuid 1 ≠ other.readings.newUuid 1
  sessions : request.readings.newUuid 2 ≠ other.readings.newUuid 2
  tokens : (request.sessionToken context).2.1 ≠ (other.sessionToken context).2.1

theorem BootstrapRequest.Distinct.symm {request other : BootstrapRequest}
    (distinct : request.Distinct context other) : other.Distinct context request where
  organizations := distinct.organizations.symm
  users := distinct.users.symm
  sessions := distinct.sessions.symm
  tokens := distinct.tokens.symm

instance : Std.Symm (BootstrapRequest.Distinct context) where
  symm _ _ distinct := distinct.symm

theorem BootstrapRequest.Fresh.unconflicted {request : BootstrapRequest} {db : Database}
    (fresh : request.Fresh context db)
    (newEmail : ∀ stored ∈ db.users, request.payload.email ≠ stored.email) :
    ∃ organization created, request.Chooses db organization created ∧
      request.Unconflicted context organization created db := by
  have users : ∀ stored ∈ db.users, (request.newUser context).conflicts stored = false := by
    intro stored member
    simp [User.conflicts, newUser, fresh.users stored member, newEmail stored member]
  have memberships : ∀ organization, ∀ stored ∈ db.memberships,
      (request.newMembership organization).conflicts stored = false := by
    intro organization stored member
    simp [Membership.conflicts, newMembership, fresh.memberships stored member]
  have sessions : ∀ organization, ∀ stored ∈ db.authSessions,
      (request.newSession context organization).conflicts stored = false := by
    intro organization stored member
    simp [AuthSession.conflicts, newSession, fresh.sessions stored member]
  unfold Chooses
  cases found : db.organizations.find? (·.slug == request.payload.organizationSlug) with
  | some organization =>
      refine ⟨organization, false, ⟨rfl, rfl⟩, ?_, by simp, users, memberships _, sessions _⟩
      intro _
      exact List.any_eq_true.mpr ⟨organization, List.mem_of_find?_eq_some found, by simp⟩
  | none =>
      refine ⟨request.newOrganization, true, ⟨rfl, rfl⟩, by simp, ?_, users, memberships _,
        sessions _⟩
      intro _ stored member
      have otherSlug := List.find?_eq_none.mp found stored member
      simp only [Organization.conflicts, newOrganization, Bool.or_eq_false_iff, beq_eq_false_iff_ne]
      refine ⟨fresh.organizations stored member, ?_⟩
      intro equal
      exact otherSlug (by simp [equal])

theorem BootstrapRequest.Fresh.bootstrapped {request other : BootstrapRequest} {db : Database}
    (fresh : request.Fresh context db) (distinct : request.Distinct context other)
    {organization : Organization} {created : Bool} (chooses : other.Chooses db organization created) :
    request.Fresh context (db.bootstrapped context other organization created) where
  organizations stored member := by
    rcases List.mem_append.mp member with member | last
    · exact fresh.organizations stored member
    · unfold Chooses at chooses
      split at chooses
      · rw [chooses.2] at last
        simp at last
      · rw [chooses.1, chooses.2] at last
        simp only [if_true, List.mem_singleton] at last
        rw [last]
        exact distinct.organizations
  users stored member := by
    rcases List.mem_append.mp member with member | last
    · exact fresh.users stored member
    · rw [List.mem_singleton.mp last]
      exact distinct.users
  memberships stored member := by
    rcases List.mem_append.mp member with member | last
    · exact fresh.memberships stored member
    · rw [List.mem_singleton.mp last]
      exact distinct.users
  sessions stored member := by
    rcases List.mem_append.mp member with member | last
    · exact fresh.sessions stored member
    · rw [List.mem_singleton.mp last]
      exact ⟨distinct.sessions, distinct.tokens⟩

/-! ### Two requests past the count -/

def BootstrapSystem.Quiet (context : BootstrapContext) (system : BootstrapSystem) : Prop :=
  ∀ transaction ∈ system.transactions, transaction.uncommitted context = []

theorem BootstrapSystem.Quiet.alone {system : BootstrapSystem} (quiet : system.Quiet context)
    (index : Nat) : system.others context index = [] := by
  simp only [others, List.flatMap_eq_nil_iff]
  intro transaction member
  exact quiet transaction (List.mem_of_mem_eraseIdx member)

theorem BootstrapSystem.Quiet.moved {system : BootstrapSystem} (quiet : system.Quiet context)
    (index : Nat) {transaction : BootstrapTransaction} (db : Database) {phase : BootstrapPhase}
    (clean : ({ transaction with phase } : BootstrapTransaction).uncommitted context = []) :
    (system.moved index transaction db phase).Quiet context := by
  intro other member
  rcases List.mem_or_eq_of_mem_set member with member | rfl
  · exact quiet other member
  · exact clean

theorem BootstrapTransaction.next_started {request : BootstrapRequest} {db : Database}
    (rightToken : checkBootstrapToken context.settings request.bootstrapToken = .ok ())
    (empty : db.users = []) (others : List Write) :
    ({ request } : BootstrapTransaction).next context db others = some (db, .lookingUp) := by
  simp [next, rightToken, empty]

theorem BootstrapSystem.Quiet.run_success {system : BootstrapSystem} (quiet : system.Quiet context)
    {index : Nat} {request : BootstrapRequest}
    (present : system.transactions[index]? = some { request, phase := .lookingUp })
    (fresh : request.Fresh context system.db)
    (newEmail : ∀ stored ∈ system.db.users, request.payload.email ≠ stored.email) :
    ∃ actions organization created, request.Chooses system.db organization created ∧
      run (step context) system actions = some (system.moved index { request }
        (system.db.bootstrapped context request organization created)
        (.answered (.ok (request.token context organization)))) := by
  rcases List.getElem?_eq_some_iff.mp present with ⟨bound, equal⟩
  rcases fresh.unconflicted newEmail with ⟨organization, created, chooses, free⟩
  have here : system.moved index { request } system.db .lookingUp = system := by
    unfold BootstrapSystem.moved
    rw [← equal, List.set_getElem_self]
  have ran : ∃ actions, run (step context)
      (system.moved index { request } system.db .lookingUp) actions =
        some (system.moved index { request }
          (system.db.bootstrapped context request organization created)
          (.answered (.ok (request.token context organization)))) :=
    run_alone bound (quiet.alone index) chooses free
  rw [here] at ran
  rcases ran with ⟨actions, ran⟩
  exact ⟨actions, organization, created, chooses, ran⟩

theorem BootstrapSystem.countP_moved_success {system : BootstrapSystem} {index : Nat}
    {request : BootstrapRequest}
    (present : system.transactions[index]? = some { request, phase := .lookingUp })
    (db : Database) (token : TokenRead) :
    (system.moved index { request } db (.answered (.ok token))).transactions.countP (·.succeeded) =
      system.transactions.countP (·.succeeded) + 1 :=
  countP_set_of_unselected BootstrapTransaction.succeeded present rfl
    { request, phase := .answered (.ok token) }

theorem BootstrapSystem.getElem?_moved_of_ne {system : BootstrapSystem} {index other : Nat}
    (different : index ≠ other) (transaction : BootstrapTransaction) (db : Database)
    (phase : BootstrapPhase) :
    (system.moved index transaction db phase).transactions[other]? =
      system.transactions[other]? :=
  List.getElem?_set_ne different

variable {initial : Database} {requests : List BootstrapRequest}

/-- Without a user, two requests may both get past the count. -/
theorem run_both_count (empty : initial.users = []) {i j : Nat} (different : i ≠ j)
    {first second : BootstrapRequest} (firstAt : requests[i]? = some first)
    (secondAt : requests[j]? = some second)
    (firstToken : checkBootstrapToken context.settings first.bootstrapToken = .ok ())
    (secondToken : checkBootstrapToken context.settings second.bootstrapToken = .ok ()) :
    ∃ actions counted,
      run (BootstrapSystem.step context) (.start initial requests) actions = some counted ∧
        counted.Quiet context ∧ counted.db = initial ∧
        counted.transactions[i]? = some { request := first, phase := .lookingUp } ∧
        counted.transactions[j]? = some { request := second, phase := .lookingUp } := by
  let started := BootstrapSystem.start initial requests
  have startQuiet : started.Quiet context := by
    intro transaction member
    rcases List.mem_map.mp member with ⟨request, -, rfl⟩
    rfl
  have firstStarted : started.transactions[i]? = some { request := first } := by
    simp [started, BootstrapSystem.start, firstAt]
  have secondStarted : started.transactions[j]? = some { request := second } := by
    simp [started, BootstrapSystem.start, secondAt]
  have firstCounts : started.step context i =
      some (started.moved i { request := first } initial .lookingUp) :=
    BootstrapSystem.step_alone firstStarted (startQuiet.alone i)
      (BootstrapTransaction.next_started firstToken empty [])
  let middle := started.moved i { request := first } initial .lookingUp
  have middleQuiet : middle.Quiet context := startQuiet.moved i initial rfl
  have secondMiddle : middle.transactions[j]? = some { request := second } :=
    (BootstrapSystem.getElem?_moved_of_ne different _ _ _).trans secondStarted
  have secondCounts : middle.step context j =
      some (middle.moved j { request := second } initial .lookingUp) :=
    BootstrapSystem.step_alone secondMiddle (middleQuiet.alone j)
      (BootstrapTransaction.next_started secondToken empty [])
  refine ⟨[i, j], middle.moved j { request := second } initial .lookingUp, ?_,
    middleQuiet.moved j initial rfl, rfl, ?_, ?_⟩
  · simp only [run]
    rw [show BootstrapSystem.step context (.start initial requests) i = _ from firstCounts]
    rw [Option.bind_some, show BootstrapSystem.step context _ j = _ from secondCounts]
    rfl
  · rw [BootstrapSystem.getElem?_moved_of_ne different.symm]
    exact List.getElem?_set_self (List.getElem?_eq_some_iff.mp firstStarted).1
  · exact List.getElem?_set_self (List.getElem?_eq_some_iff.mp secondMiddle).1

/-- Without a user, two requests with different emails may both succeed. -/
theorem two_bootstraps_succeed (empty : initial.users = [])
    {first second : BootstrapRequest} (firstMember : first ∈ requests)
    (secondMember : second ∈ requests) (emails : first.payload.email ≠ second.payload.email)
    (firstToken : checkBootstrapToken context.settings first.bootstrapToken = .ok ())
    (secondToken : checkBootstrapToken context.settings second.bootstrapToken = .ok ())
    (firstFresh : first.Fresh context initial) (secondFresh : second.Fresh context initial)
    (distinct : second.Distinct context first) :
    ∃ actions final,
      run (BootstrapSystem.step context) (.start initial requests) actions = some final ∧
        2 ≤ final.transactions.countP (·.succeeded) := by
  rcases List.getElem?_of_mem firstMember with ⟨i, firstAt⟩
  rcases List.getElem?_of_mem secondMember with ⟨j, secondAt⟩
  have different : i ≠ j := by
    intro equal
    rw [← equal, firstAt] at secondAt
    cases secondAt
    exact emails rfl
  rcases run_both_count empty different firstAt secondAt firstToken secondToken with
    ⟨countActions, counted, countRun, quiet, unchanged, firstCounted, secondCounted⟩
  -- The first one then runs to its end, and after it the second one.
  rcases quiet.run_success firstCounted (by rwa [unchanged]) (by simp [unchanged, empty]) with
    ⟨firstActions, firstOrganization, firstCreated, chooses, firstRun⟩
  let between := counted.moved i { request := first }
    (counted.db.bootstrapped context first firstOrganization firstCreated)
    (.answered (.ok (first.token context firstOrganization)))
  have secondBetween : between.transactions[j]? =
      some { request := second, phase := .lookingUp } :=
    (BootstrapSystem.getElem?_moved_of_ne different _ _ _).trans secondCounted
  have secondFresh : second.Fresh context between.db :=
    BootstrapRequest.Fresh.bootstrapped (by rwa [unchanged]) distinct chooses
  have newEmail : ∀ stored ∈ between.db.users, second.payload.email ≠ stored.email := by
    intro stored member
    have last : stored = first.newUser context := by
      simpa [between, BootstrapSystem.moved, Database.bootstrapped, unchanged, empty] using member
    rw [last]
    exact emails.symm
  rcases (quiet.moved i _ rfl : between.Quiet context).run_success secondBetween secondFresh
    newEmail with ⟨secondActions, secondOrganization, secondCreated, -, secondRun⟩
  refine ⟨countActions ++ (firstActions ++ secondActions), _,
    run_trans countRun (run_trans firstRun secondRun), ?_⟩
  have firstCount := BootstrapSystem.countP_moved_success firstCounted
    (counted.db.bootstrapped context first firstOrganization firstCreated)
    (first.token context firstOrganization)
  rw [BootstrapSystem.countP_moved_success secondBetween, firstCount]
  omega

end

theorem bootstrapShared_start {initial : Database} {requests : List BootstrapRequest}
    {email : String} (emails : ∀ request ∈ requests, request.payload.email = email) :
    BootstrapShared email initial (.start initial requests) where
  emails transaction member := by
    rcases List.mem_map.mp member with ⟨request, requestMember, rfl⟩
    exact emails request requestMember
  outcome := by
    refine .inl ⟨rfl, ?_⟩
    rw [List.countP_eq_zero]
    intro transaction member
    rcases List.mem_map.mp member with ⟨request, -, rfl⟩
    simp [BootstrapTransaction.succeeded]

theorem bootstrapClosed_start (initial : Database) (requests : List BootstrapRequest) :
    BootstrapClosed initial (.start initial requests) where
  db := rfl
  phases transaction member := by
    rcases List.mem_map.mp member with ⟨request, -, rfl⟩
    exact .inl rfl

/-- Requests with the right token succeed at most once in every interleaving,
exactly when a user exists before or all requests carry one email. -/
theorem bootstrap_once_iff (context : BootstrapContext) (initial : Database)
    (requests : List BootstrapRequest)
    (rightToken : ∀ request ∈ requests,
      checkBootstrapToken context.settings request.bootstrapToken = .ok ())
    (fresh : ∀ request ∈ requests, request.Fresh context initial)
    (distinct : requests.Pairwise (BootstrapRequest.Distinct context)) :
    (∀ actions final,
      run (BootstrapSystem.step context) (.start initial requests) actions = some final →
      BootstrappedOnce initial final) ↔
    (initial.users ≠ [] ∨
      ∀ request ∈ requests, ∀ other ∈ requests, request.payload.email = other.payload.email) := by
  constructor
  · intro once
    by_cases empty : initial.users = []
    · right
      intro request member other otherMember
      by_contra emails
      have apart : other.Distinct context request :=
        distinct.forall otherMember member fun equal => emails (by rw [equal])
      rcases two_bootstraps_succeed empty member otherMember emails (rightToken request member)
        (rightToken other otherMember) (fresh request member) (fresh other otherMember) apart with
        ⟨actions, final, ran, twice⟩
      have answers := (once actions final ran).answers
      omega
    · exact .inl empty
  · rintro (populated | sameEmail) actions final ran
    · have closed := run_invariant (BootstrapClosed initial)
        (fun current index next holds stepped => holds.step populated stepped) ran
        (bootstrapClosed_start initial requests)
      exact closed.once
    · have common : ∃ email, ∀ request ∈ requests, request.payload.email = email := by
        cases requests with
        | nil => exact ⟨"", by simp⟩
        | cons request rest =>
            exact ⟨request.payload.email, fun other member =>
              sameEmail other member request List.mem_cons_self⟩
      rcases common with ⟨email, emails⟩
      have shared := run_invariant (BootstrapShared email initial)
        (fun current index next holds stepped => holds.step stepped) ran
        (bootstrapShared_start emails)
      exact shared.once

namespace Scenario

def bootstrapContext : BootstrapContext where
  settings := prodSettings
  credentials := plainCredentials
  hashPassword password salt := password ++ salt

def bootstrapOf (name slug : String) : BootstrapRequest where
  payload :=
    { email := name ++ "@example.com", password := "a-long-password", displayName := name
      organizationName := slug, organizationSlug := slug }
  bootstrapToken := some "bootstrap"
  readings :=
    { newUuid := fun index => name ++ toString index
      utcNow := fun index => index
      tokenUrlsafe := name
      salt := "salt" }

def bootstrapRequests : List BootstrapRequest :=
  [bootstrapOf "alice" "alpha", bootstrapOf "bob" "beta"]

theorem rightToken_bootstrapRequests : ∀ request ∈ bootstrapRequests,
    checkBootstrapToken bootstrapContext.settings request.bootstrapToken = .ok () := by
  intro request member
  rcases List.mem_pair.mp member with rfl | rfl <;> rfl

theorem fresh_bootstrapRequests : ∀ request ∈ bootstrapRequests,
    request.Fresh bootstrapContext (Database.migrated 0) := by
  intro request member
  rcases List.mem_pair.mp member with rfl | rfl
  · exact ⟨by decide +kernel, by decide +kernel, by decide +kernel, by decide +kernel⟩
  · exact ⟨by decide +kernel, by decide +kernel, by decide +kernel, by decide +kernel⟩

theorem distinct_bootstrapRequests :
    bootstrapRequests.Pairwise (BootstrapRequest.Distinct bootstrapContext) := by
  refine List.pairwise_pair.mpr ⟨?_, ?_, ?_, ?_⟩ <;> decide +kernel

end Scenario

/-- Two requests for two owners, which may both succeed. -/
theorem bootstrap_once_iff_scenario :
    (∀ actions final,
      run (BootstrapSystem.step Scenario.bootstrapContext)
        (.start (Database.migrated 0) Scenario.bootstrapRequests) actions = some final →
      BootstrappedOnce (Database.migrated 0) final) ↔
    ((Database.migrated 0).users ≠ [] ∨
      ∀ request ∈ Scenario.bootstrapRequests, ∀ other ∈ Scenario.bootstrapRequests,
        request.payload.email = other.payload.email) :=
  bootstrap_once_iff Scenario.bootstrapContext (Database.migrated 0) Scenario.bootstrapRequests
    Scenario.rightToken_bootstrapRequests Scenario.fresh_bootstrapRequests
    Scenario.distinct_bootstrapRequests

theorem bootstrap_succeeds_twice :
    ¬∀ actions final,
      run (BootstrapSystem.step Scenario.bootstrapContext)
        (.start (Database.migrated 0) Scenario.bootstrapRequests) actions = some final →
      BootstrappedOnce (Database.migrated 0) final := by
  intro once
  have twice : ∃ final,
      run (BootstrapSystem.step Scenario.bootstrapContext)
        (.start (Database.migrated 0) Scenario.bootstrapRequests)
        [0, 1, 0, 0, 0, 0, 0, 1, 1, 1, 1, 1] = some final ∧
        final.transactions.countP (·.succeeded) = 2 := by
    refine ⟨_, rfl, ?_⟩
    decide +kernel
  rcases twice with ⟨final, ran, count⟩
  have answers := (once _ final ran).answers
  omega

end EvalForge
