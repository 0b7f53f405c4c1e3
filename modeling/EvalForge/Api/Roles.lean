import EvalForge.Api.OwnerRule
import EvalForge.Api.TenantConsistency

/-! # Roles

What a request may change by the role of its principal, and what no run below
the role of an owner changes.
-/

namespace EvalForge

open Foundation

def Database.membersOf (db : Database) (organizationId : String) : List Membership :=
  db.memberships.filter (·.organizationId == organizationId)

structure Database.IdentityConsistent (db : Database) : Prop where
  memberships : db.MembershipsKeyed
  apiKeys : Keyed PersonalApiKey.conflicts db.personalApiKeys
  defaultOrganization : db.hasOrganization defaultOrganizationId = true
  authSessions : ∀ authSession ∈ db.authSessions,
    db.hasOrganization authSession.organizationId = true
  personalApiKeys : ∀ apiKey ∈ db.personalApiKeys,
    db.hasOrganization apiKey.organizationId = true

section

variable {db next : Database} {organizationId : String}

/-! ## Organizations are kept -/

theorem Database.hasOrganization_append {organizations : List Organization}
    (present : db.hasOrganization organizationId = true) :
    Database.hasOrganization { db with organizations := db.organizations ++ organizations }
      organizationId = true := by
  rw [hasOrganization, List.any_append, Bool.or_eq_true]
  exact .inl present

theorem apply_hasOrganization {write : Write} (applied : db.apply write = some next)
    (present : db.hasOrganization organizationId = true) :
    next.hasOrganization organizationId = true := by
  cases kind : write.onIdentity with
  | false => exact hasOrganization_of_identityTables (apply_onTenant kind applied) present
  | true =>
      cases write with
      | insertOrganization row =>
          rcases apply_insertOrganization applied with ⟨-, rfl⟩
          exact Database.hasOrganization_append present
      | insertUser row =>
          rcases apply_insertUser applied with ⟨-, rfl⟩
          exact present
      | insertMembership row =>
          rcases apply_insertMembership applied with ⟨-, -, rfl⟩
          exact present
      | insertAuthSession row =>
          rcases apply_insertAuthSession applied with ⟨-, -, rfl⟩
          exact present
      | insertApiKey row =>
          rcases apply_insertApiKey applied with ⟨-, -, rfl⟩
          exact present
      | setLockout | setPasswordHash | setRole | deleteMembership | revokeSession | touchApiKey
      | revokeApiKey =>
          cases applied
          exact present
      | _ => cases kind

/-! ## Consistent credentials -/

namespace Database.IdentityConsistent

theorem of_identityTables (same : next.identityTables = db.identityTables)
    (consistent : db.IdentityConsistent) : next.IdentityConsistent := by
  have tables : db.identityTables.IdentityConsistent := { consistent with }
  rw [← same] at tables
  exact { tables with }

theorem insertOrganization {organization : Organization} (consistent : db.IdentityConsistent) :
    Database.IdentityConsistent
      { db with organizations := db.organizations ++ [organization] } where
  memberships := consistent.memberships
  apiKeys := consistent.apiKeys
  defaultOrganization := hasOrganization_append consistent.defaultOrganization
  authSessions authSession member :=
    hasOrganization_append (consistent.authSessions authSession member)
  personalApiKeys apiKey member :=
    hasOrganization_append (consistent.personalApiKeys apiKey member)

theorem updateAuthSessions {selected : AuthSession → Bool} {change : AuthSession → AuthSession}
    (same : ∀ authSession, (change authSession).organizationId = authSession.organizationId)
    (consistent : db.IdentityConsistent) :
    Database.IdentityConsistent
      { db with authSessions := updateWhere selected change db.authSessions } :=
  { consistent with
    authSessions := by
      intro authSession member
      rcases mem_updateWhere.mp member with ⟨stored, storedMember, equal⟩
      have present := consistent.authSessions stored storedMember
      rw [equal]
      split
      · rw [same]
        exact present
      · exact present }

theorem updateApiKeys {selected : PersonalApiKey → Bool}
    {change : PersonalApiKey → PersonalApiKey}
    (same : ∀ apiKey, (change apiKey).organizationId = apiKey.organizationId)
    (sameKeys : ∀ apiKey other : PersonalApiKey,
      (change apiKey).conflicts other = apiKey.conflicts other ∧
        other.conflicts (change apiKey) = other.conflicts apiKey)
    (consistent : db.IdentityConsistent) :
    Database.IdentityConsistent
      { db with personalApiKeys := updateWhere selected change db.personalApiKeys } :=
  { consistent with
    apiKeys := consistent.apiKeys.update sameKeys
    personalApiKeys := by
      intro apiKey member
      rcases mem_updateWhere.mp member with ⟨stored, storedMember, equal⟩
      have present := consistent.personalApiKeys stored storedMember
      rw [equal]
      split
      · rw [same]
        exact present
      · exact present }

theorem apply {write : Write} (consistent : db.IdentityConsistent)
    (applied : db.apply write = some next) : next.IdentityConsistent := by
  cases kind : write.onIdentity with
  | false => exact consistent.of_identityTables (apply_onTenant kind applied)
  | true =>
      cases write with
      | insertOrganization row =>
          rcases apply_insertOrganization applied with ⟨-, rfl⟩
          exact consistent.insertOrganization
      | insertUser row =>
          rcases apply_insertUser applied with ⟨-, rfl⟩
          exact { consistent with }
      | setLockout | setPasswordHash =>
          cases applied
          exact { consistent with }
      | insertMembership row =>
          rcases apply_insertMembership applied with ⟨-, free, rfl⟩
          exact { consistent with memberships := Keyed.insert consistent.memberships free }
      | setRole =>
          cases applied
          exact { consistent with
            memberships := Keyed.update consistent.memberships fun _ _ => ⟨rfl, rfl⟩ }
      | deleteMembership =>
          cases applied
          exact { consistent with memberships := Keyed.filter consistent.memberships _ }
      | insertAuthSession row =>
          rcases apply_insertAuthSession applied with ⟨referenced, -, rfl⟩
          rw [Bool.and_eq_true] at referenced
          exact { consistent with
            authSessions := forall_mem_append_singleton consistent.authSessions referenced.1 }
      | revokeSession =>
          cases applied
          exact consistent.updateAuthSessions fun _ => rfl
      | insertApiKey row =>
          rcases apply_insertApiKey applied with ⟨referenced, free, rfl⟩
          rw [Bool.and_eq_true] at referenced
          exact { consistent with
            apiKeys := consistent.apiKeys.insert free
            personalApiKeys :=
              forall_mem_append_singleton consistent.personalApiKeys referenced.1 }
      | touchApiKey | revokeApiKey =>
          cases applied
          exact consistent.updateApiKeys (fun _ => rfl) fun _ _ => ⟨rfl, rfl⟩
      | _ => cases kind

theorem commit {writes : List Write} (consistent : db.IdentityConsistent)
    (committed : db.commit writes = some next) : next.IdentityConsistent :=
  commit_keeps IdentityConsistent (fun _ => True)
    (fun _ _ _ _ kept applied => kept.apply applied) (fun _ _ => trivial) consistent committed

theorem settle {Answer : Type} (reply : Reply Answer) (consistent : db.IdentityConsistent) :
    (Reply.settle db reply).1.IdentityConsistent :=
  settle_keeps IdentityConsistent consistent fun _ committed => consistent.commit committed

end Database.IdentityConsistent

theorem commit_hasOrganization {writes : List Write} (committed : db.commit writes = some next)
    (present : db.hasOrganization organizationId = true) :
    next.hasOrganization organizationId = true :=
  commit_keeps (·.hasOrganization organizationId = true) (fun _ => True)
    (fun _ _ _ _ kept applied => apply_hasOrganization applied kept) (fun _ _ => trivial) present
    committed

end

/-! ## Members and owners -/

section

variable {db next : Database} {principal : Principal} {organizationId : String}

theorem isOwnerOf_eq_any (db : Database) (organizationId userId : String) :
    db.isOwnerOf organizationId userId =
      (db.membersOf organizationId).any fun membership =>
        membership.userId == userId && membership.role == .owner := by
  rw [Database.isOwnerOf, Database.membersOf, List.any_filter]
  simp only [Bool.and_assoc]

theorem isOwnerOf_of_membersOf
    (same : next.membersOf organizationId = db.membersOf organizationId) :
    next.isOwnerOf organizationId = db.isOwnerOf organizationId := by
  funext userId
  rw [isOwnerOf_eq_any, isOwnerOf_eq_any, same]

theorem membersOf_append {membership : Membership} {memberships : List Membership}
    (other : membership.organizationId ≠ organizationId)
    (inserted : next.memberships = memberships ++ [membership])
    (same : memberships = db.memberships) :
    next.membersOf organizationId = db.membersOf organizationId := by
  have unselected : (membership.organizationId == organizationId) = false :=
    beq_eq_false_iff_ne.mpr other
  simp [Database.membersOf, inserted, same, List.filter_append, unselected]

theorem commit_onCredentials {writes : List Write}
    (onCredentials : ∀ write ∈ writes, write.onCredentials = true)
    (committed : db.commit writes = some next) :
    next.memberships = db.memberships ∧ next.organizations = db.organizations := by
  refine commit_keeps
    (fun current => current.memberships = db.memberships ∧
      current.organizations = db.organizations) (·.onCredentials = true)
    ?_ onCredentials ⟨rfl, rfl⟩ committed
  intro current after write allowed kept applied
  cases write with
  | insertUser row =>
      rcases apply_insertUser applied with ⟨-, rfl⟩
      exact kept
  | insertAuthSession row =>
      rcases apply_insertAuthSession applied with ⟨-, -, rfl⟩
      exact kept
  | insertApiKey row =>
      rcases apply_insertApiKey applied with ⟨-, -, rfl⟩
      exact kept
  | setLockout | setPasswordHash | revokeSession | touchApiKey | revokeApiKey =>
      cases applied
      exact kept
  | _ => cases allowed

/-- What a request changes, by its principal. -/
structure Confined (principal : Principal) (db next : Database) : Prop where
  tenantTables : next.tenantTables ≠ db.tenantTables →
    Role.evaluator.level ≤ principal.role.level
  members : next.membersOf principal.organizationId ≠ db.membersOf principal.organizationId →
    Role.admin.level ≤ principal.role.level
  owners : next.isOwnerOf principal.organizationId ≠ db.isOwnerOf principal.organizationId →
    principal.role = .owner
  others : ∀ organizationId, organizationId ≠ principal.organizationId →
    db.hasOrganization organizationId = true →
    next.membersOf organizationId = db.membersOf organizationId

theorem Confined.of_membersOf
    (tenantTables : next.tenantTables ≠ db.tenantTables →
      Role.evaluator.level ≤ principal.role.level)
    (present : db.hasOrganization principal.organizationId = true)
    (members : ∀ organizationId, db.hasOrganization organizationId = true →
      next.membersOf organizationId = db.membersOf organizationId) :
    Confined principal db next where
  tenantTables := tenantTables
  members changed := absurd (members _ present) changed
  owners changed := absurd (isOwnerOf_of_membersOf (members _ present)) changed
  others organizationId _ stored := members organizationId stored

theorem Confined.refl (principal : Principal) (db : Database) : Confined principal db db where
  tenantTables changed := absurd rfl changed
  members changed := absurd rfl changed
  owners changed := absurd rfl changed
  others _ _ _ := rfl

/-! ## Requests on tenant rows -/

theorem commit_admits_identityTables {organizationId : String} {writes : List Write}
    {db : Database} (admits : db.Admits organizationId writes)
    (committed : db.commit writes = some next) : next.identityTables = db.identityTables := by
  induction writes generalizing db with
  | nil =>
      cases committed
      rfl
  | cons write writes induction =>
      rcases Option.bind_eq_some_iff.mp committed with ⟨middle, applied, rest⟩
      have onTenant : write.onIdentity = false := by
        have admissible := admits.1
        cases write <;> first | rfl | exact admissible.elim
      exact (induction (admits.2 middle applied) rest).trans (apply_onTenant onTenant applied)

theorem commit_byWorker_identityTables {writes : List Write}
    (byWorker : ∀ write ∈ writes, write.byWorker = true)
    (committed : db.commit writes = some next) : next.identityTables = db.identityTables := by
  refine commit_onTenant (fun write member => ?_) committed
  have allowed := byWorker write member
  cases write <;> first | rfl | cases allowed

theorem membersOf_of_identityTables (same : next.identityTables = db.identityTables)
    (organizationId : String) : next.membersOf organizationId = db.membersOf organizationId := by
  have memberships := congrArg Database.memberships same
  have sameMemberships : next.memberships = db.memberships := memberships
  rw [Database.membersOf, Database.membersOf, sameMemberships]

theorem confined_requestWrites {runMode : String} {issued : String → Prop} {writes : List Write}
    (written : RequestWrites runMode principal db issued writes)
    (present : db.hasOrganization principal.organizationId = true)
    (committed : db.commit writes = some next) : Confined principal db next := by
  rcases written with rfl | ⟨inserts, updates, rfl, created, byWorker, -⟩
  · cases committed
    exact .refl principal db
  · rw [Database.commit_append] at committed
    rcases Option.bind_eq_some_iff.mp committed with ⟨middle, inserted, updated⟩
    have same : next.identityTables = db.identityTables :=
      (commit_byWorker_identityTables byWorker updated).trans
        (commit_admits_identityTables created.admits inserted)
    exact .of_membersOf (fun _ => created.evaluator) present
      fun organizationId _ => membersOf_of_identityTables same organizationId

/-! ## Requests on members -/

theorem eq_of_membership? (keyed : db.MembershipsKeyed) {userId : String}
    {membership other : Membership} (found : db.membership? organizationId userId = some membership)
    (member : other ∈ db.memberships) (ofOrganization : other.organizationId = organizationId)
    (ofUser : other.userId = userId) : other = membership := by
  have selected := List.find?_some found
  rw [Bool.and_eq_true, beq_iff_eq, beq_iff_eq] at selected
  refine Keyed.eq_of_conflicts keyed member (List.mem_of_find?_eq_some found) ?_ ?_
  · simp [Membership.conflicts, selected, ofOrganization, ofUser]
  · simp [Membership.conflicts, selected, ofOrganization, ofUser]

theorem confined_assign {membership : Membership} {role : Role}
    (admin : Role.admin.level ≤ principal.role.level) (keyed : db.MembershipsKeyed)
    (found : db.membership? principal.organizationId membership.userId = some membership)
    (byOwner : membership.role = .owner ∨ role = .owner → principal.role = .owner) :
    Confined principal db { db with
      memberships := updateWhere
        (fun row => row.organizationId == principal.organizationId &&
          row.userId == membership.userId)
        (fun row => { row with role }) db.memberships } where
  tenantTables changed := absurd rfl changed
  members _ := admin
  owners changed := by
    by_contra notOwner
    apply changed
    funext userId
    refine any_updateWhere_of_apart fun row member selected => ?_
    rw [Bool.and_eq_true, beq_iff_eq, beq_iff_eq] at selected
    have same := eq_of_membership? keyed found member selected.1 selected.2
    have before : row.role ≠ .owner := fun owner =>
      notOwner (byOwner (.inl ((congrArg Membership.role same).symm.trans owner)))
    have after : role ≠ .owner := fun owner => notOwner (byOwner (.inr owner))
    simp [before, after]
  others organizationId other _ := by
    refine filter_updateWhere_of_apart fun row _ selected => ?_
    rw [Bool.and_eq_true, beq_iff_eq] at selected
    have apart : (row.organizationId == organizationId) = false := by
      rw [selected.1]
      exact beq_eq_false_iff_ne.mpr other.symm
    exact ⟨apart, apart⟩

theorem confined_remove {membership : Membership}
    (admin : Role.admin.level ≤ principal.role.level) (keyed : db.MembershipsKeyed)
    (found : db.membership? principal.organizationId membership.userId = some membership)
    (byOwner : membership.role = .owner → principal.role = .owner) :
    Confined principal db { db with
      memberships := db.memberships.filter fun row =>
        !(row.organizationId == principal.organizationId &&
          row.userId == membership.userId) } where
  tenantTables changed := absurd rfl changed
  members _ := admin
  owners changed := by
    by_contra notOwner
    apply changed
    funext userId
    refine any_filter_of_imp fun row member owner => ?_
    rw [Bool.and_eq_true, Bool.and_eq_true, beq_iff_eq, beq_iff_eq, beq_iff_eq] at owner
    rw [Bool.not_eq_true']
    by_contra selected
    rw [Bool.not_eq_false, Bool.and_eq_true, beq_iff_eq, beq_iff_eq] at selected
    have same := eq_of_membership? keyed found member selected.1 selected.2
    exact notOwner (byOwner ((congrArg Membership.role same).symm.trans owner.2))
  others organizationId other _ := by
    refine filter_filter_of_imp fun row _ kept => ?_
    rw [beq_iff_eq] at kept
    simp [kept, other]

theorem confined_member {users : List Write} {membership : Membership}
    (onCredentials : ∀ write ∈ users, write.onCredentials = true)
    (admin : Role.admin.level ≤ principal.role.level)
    (own : membership.organizationId = principal.organizationId)
    (byOwner : membership.role = .owner → principal.role = .owner)
    (committed : db.commit (users ++ [.insertMembership membership]) = some next) :
    Confined principal db next := by
  have written : IdentityWrites principal db (users ++ [.insertMembership membership]) :=
    .member users membership onCredentials admin own byOwner
  have tenantTables := commit_onIdentity written.onIdentity committed
  rw [Database.commit_append] at committed
  rcases Option.bind_eq_some_iff.mp committed with ⟨middle, created, joined⟩
  rcases Option.bind_eq_some_iff.mp joined with ⟨last, applied, finished⟩
  cases finished
  have memberships := (commit_onCredentials onCredentials created).1
  rcases apply_insertMembership applied with ⟨-, -, rfl⟩
  exact {
    tenantTables := fun changed => absurd tenantTables changed
    members := fun _ => admin
    owners := by
      intro changed
      by_contra notOwner
      apply changed
      funext userId
      have plain : (membership.role == Role.owner) = false :=
        beq_eq_false_iff_ne.mpr fun owner => notOwner (byOwner owner)
      simp [Database.isOwnerOf, memberships, plain]
    others := fun organizationId other _ =>
      membersOf_append (own ▸ other.symm) rfl memberships }

theorem confined_organization {organization : Organization} {membership : Membership}
    (first : membership.organizationId = organization.id)
    (present : db.hasOrganization principal.organizationId = true)
    (committed : db.commit [.insertOrganization organization, .insertMembership membership] =
      some next) : Confined principal db next := by
  have written : IdentityWrites principal db
      [.insertOrganization organization, .insertMembership membership] :=
    .organization organization membership first
  have tenantTables := commit_onIdentity written.onIdentity committed
  rcases Option.bind_eq_some_iff.mp committed with ⟨middle, created, joined⟩
  rcases Option.bind_eq_some_iff.mp joined with ⟨last, applied, finished⟩
  cases finished
  rcases apply_insertOrganization created with ⟨free, rfl⟩
  rcases apply_insertMembership applied with ⟨-, -, rfl⟩
  refine .of_membersOf (fun changed => absurd tenantTables changed) present ?_
  intro organizationId stored
  -- The id of the new organization is not the one of a stored organization.
  have new : membership.organizationId ≠ organizationId := by
    intro same
    rcases List.any_eq_true.mp stored with ⟨row, member, identified⟩
    have conflict := free row member
    simp [Organization.conflicts, ← first, same, beq_iff_eq.mp identified] at conflict
  exact membersOf_append new rfl rfl

theorem confined_identityWrites {writes : List Write}
    (written : IdentityWrites principal db writes) (keyed : db.MembershipsKeyed)
    (present : db.hasOrganization principal.organizationId = true)
    (committed : db.commit writes = some next) : Confined principal db next := by
  have tenantTables := commit_onIdentity written.onIdentity committed
  cases written with
  | credentials _ onCredentials =>
      have same := (commit_onCredentials onCredentials committed).1
      refine .of_membersOf (fun changed => absurd tenantTables changed) present ?_
      intro organizationId _
      rw [Database.membersOf, Database.membersOf, same]
  | organization organization membership first =>
      exact confined_organization first present committed
  | member users membership onCredentials admin own byOwner =>
      exact confined_member onCredentials admin own byOwner committed
  | assign membership role admin found byOwner =>
      cases committed
      exact confined_assign admin keyed found byOwner
  | remove membership admin found byOwner =>
      cases committed
      exact confined_remove admin keyed found byOwner

/-! ## Calls -/

theorem Confined.settle {Answer : Type} {reply : Reply Answer}
    (confined : ∀ next, db.commit reply.writes = some next → Confined principal db next) :
    Confined principal db (Reply.settle db reply).1 :=
  settle_keeps (Confined principal db) (.refl principal db) confined

theorem ApiRequest.confined (deployment : Deployment) (readings : Readings)
    (request : ApiRequest) (consistent : db.Consistent)
    (identities : db.IdentityConsistent)
    (present : db.hasOrganization principal.organizationId = true) :
    Confined principal db
      (Reply.settle db (request.handle deployment readings db principal)).1 := by
  cases request with
  | tenant request =>
      exact .settle fun next committed => confined_requestWrites
        (request.handle_writes deployment readings consistent) present committed
  | identity request =>
      exact .settle fun next committed => confined_identityWrites request.handle_writes
        identities.memberships present committed

structure SameBesidesCredentials (db next : Database) : Prop where
  tenantTables : next.tenantTables = db.tenantTables
  memberships : next.memberships = db.memberships
  organizations : next.organizations = db.organizations

theorem settle_onCredentials {Answer : Type} {reply : Reply Answer}
    (onCredentials : ∀ write ∈ reply.writes, write.onCredentials = true) :
    SameBesidesCredentials db (Reply.settle db reply).1 := by
  refine settle_keeps (SameBesidesCredentials db) ⟨rfl, rfl, rfl⟩ fun next committed => ?_
  have same := commit_onCredentials onCredentials committed
  exact ⟨commit_onIdentity
    (fun write member => onIdentity_of_onCredentials (onCredentials write member)) committed,
    same.1, same.2⟩

theorem Call.authenticate_same (call : Call) (db : Database) :
    SameBesidesCredentials db (Reply.settle db (call.authenticate db)).1 :=
  settle_onCredentials (call.authenticate_writes db)

theorem Confined.after {before : Database} (same : SameBesidesCredentials before db)
    (confined : Confined principal db next) : Confined principal before next := by
  have members : ∀ organizationId,
      db.membersOf organizationId = before.membersOf organizationId := by
    intro organizationId
    rw [Database.membersOf, Database.membersOf, same.memberships]
  have owners : db.isOwnerOf principal.organizationId =
      before.isOwnerOf principal.organizationId := isOwnerOf_of_membersOf (members _)
  have present : ∀ organizationId,
      db.hasOrganization organizationId = before.hasOrganization organizationId := by
    intro organizationId
    rw [Database.hasOrganization, Database.hasOrganization, same.organizations]
  exact {
    tenantTables := same.tenantTables ▸ confined.tenantTables
    members := members _ ▸ confined.members
    owners := owners ▸ confined.owners
    others := fun organizationId other stored =>
      (confined.others organizationId other (present organizationId ▸ stored)).trans
        (members organizationId) }

theorem Call.hasOrganization {call : Call} (identities : db.IdentityConsistent)
    (authenticated : (call.authenticate db).answer = .ok principal) :
    db.hasOrganization principal.organizationId = true := by
  unfold Call.authenticate at authenticated
  cases supplied : call.headers.suppliedKey with
  | none =>
      rw [getCurrentPrincipal_anonymous _ _ _ _ _ _ supplied] at authenticated
      split at authenticated
      · cases authenticated
        exact identities.defaultOrganization
      · cases authenticated
  | some key =>
      simp only [getCurrentPrincipal, supplied] at authenticated
      split at authenticated
      · cases authenticated
      · cases authenticated
        exact identities.defaultOrganization
      · split at authenticated
        · next opaqueToken =>
            cases authenticated
            rcases authenticateOpaqueToken_some opaqueToken with ⟨userId, -, held, -⟩
            rcases held with ⟨authSession, member, -, -, -, -, same⟩ |
              ⟨apiKey, member, -, -, -, -, same⟩
            · rw [← same]
              exact identities.authSessions authSession member
            · rw [← same]
              exact identities.personalApiKeys apiKey member
        · cases authenticated

theorem Call.principal?_eq_some {call : Call} (found : call.principal? db = some principal) :
    (call.authenticate db).answer = .ok principal ∧
      (Reply.settle db (call.authenticate db)).2 = .ok principal := by
  have settled : (Reply.settle db (call.authenticate db)).2 = .ok principal := by
    unfold Call.principal? at found
    cases answer : (Reply.settle db (call.authenticate db)).2 with
    | error error =>
        rw [answer] at found
        cases found
    | ok other =>
        rw [answer] at found
        cases found
        rfl
  refine ⟨?_, settled⟩
  unfold Reply.settle at settled
  split at settled
  · exact settled
  · cases settled

theorem Call.serve_of_settled {call : Call}
    (settled : (Reply.settle db (call.authenticate db)).2 = .ok principal) :
    call.serve db = Reply.settle (Reply.settle db (call.authenticate db)).1
      (call.request.handle call.deployment call.readings
        (Reply.settle db (call.authenticate db)).1 principal) := by
  simp only [Call.serve, settled]

theorem hasOrganization_of_same (same : SameBesidesCredentials db next)
    (present : db.hasOrganization organizationId = true) :
    next.hasOrganization organizationId = true := by
  rw [Database.hasOrganization, same.organizations]
  exact present

/-- A served request changes what the role of its principal allows. -/
theorem Call.serve_confined {call : Call} (consistent : db.Consistent)
    (identities : db.IdentityConsistent) (found : call.principal? db = some principal) :
    Confined principal db (call.serve db).1 := by
  rcases call.principal?_eq_some found with ⟨authenticated, settled⟩
  have same := call.authenticate_same db
  rw [Call.serve_of_settled settled]
  exact Confined.after same (call.request.confined call.deployment call.readings
    (call.authenticate_consistent consistent) (identities.settle _)
    (hasOrganization_of_same same (call.hasOrganization identities authenticated)))

theorem Call.serve_refused {call : Call} (refused : call.principal? db = none) :
    SameBesidesCredentials db (call.serve db).1 := by
  have same := call.authenticate_same db
  unfold Call.principal? at refused
  cases answer : (Reply.settle db (call.authenticate db)).2 with
  | error error =>
      simp only [Call.serve, answer]
      exact same
  | ok principal =>
      rw [answer] at refused
      cases refused

/-! ## Runs -/

theorem serverStep_identityConsistent (db : Database) (event : Event) (next : Database)
    (identities : db.IdentityConsistent) (stepped : serverStep db event = some next) :
    next.IdentityConsistent :=
  serverStep_keeps Database.IdentityConsistent (fun consistent => consistent.commit) db event next
    identities stepped

theorem Database.Reachable.identityConsistent (reachable : db.Reachable) :
    db.IdentityConsistent := by
  apply reachable.keeps Database.IdentityConsistent (fun consistent => consistent.commit)
  intro createdAt
  exact ⟨keyed_nil, keyed_nil, rfl, List.forall_mem_nil _, List.forall_mem_nil _⟩

def Event.BelowOwner (organizationId : String) (db : Database) : Event → Prop
  | .call request => ∀ principal, request.principal? db = some principal →
      principal.organizationId = organizationId → principal.role ≠ .owner
  | .bootstrap _ _ => False
  | .login _ _ _ | .work _ => True

theorem isOwnerOf_of_same (same : SameBesidesCredentials db next) (organizationId : String) :
    next.isOwnerOf organizationId = db.isOwnerOf organizationId := by
  funext userId
  rw [Database.isOwnerOf, Database.isOwnerOf, same.memberships]

theorem serverStep_owners {event : Event} (consistent : db.Consistent)
    (identities : db.IdentityConsistent) (present : db.hasOrganization organizationId = true)
    (below : event.BelowOwner organizationId db) (stepped : serverStep db event = some next) :
    next.isOwnerOf organizationId = db.isOwnerOf organizationId := by
  cases event with
  | call request =>
      cases stepped
      cases found : request.principal? db with
      | none => exact isOwnerOf_of_same (request.serve_refused found) organizationId
      | some principal =>
          have confined := request.serve_confined consistent identities found
          by_cases own : principal.organizationId = organizationId
          · have notOwner := below principal found own
            rw [← own]
            by_contra changed
            exact notOwner (confined.owners changed)
          · exact isOwnerOf_of_membersOf
              (confined.others organizationId (Ne.symm own) present)
  | login deployment readings payload =>
      cases stepped
      exact isOwnerOf_of_same (settle_onCredentials loginUser_writes) organizationId
  | bootstrap deployment request => exact below.elim
  | work transaction =>
      cases stepped
      cases committed : db.commit transaction.writes with
      | none => rfl
      | some next =>
          exact isOwnerOf_of_membersOf (membersOf_of_identityTables
            (commit_byWorker_identityTables transaction.byWorker committed) organizationId)

theorem serverStep_hasOrganization {event : Event}
    (present : db.hasOrganization organizationId = true)
    (stepped : serverStep db event = some next) :
    next.hasOrganization organizationId = true := by
  have settled {Answer : Type} (current : Database) (reply : Reply Answer)
      (stored : current.hasOrganization organizationId = true) :
      (Reply.settle current reply).1.hasOrganization organizationId = true :=
    settle_keeps (·.hasOrganization organizationId = true) stored
      fun _ committed => commit_hasOrganization committed stored
  cases event with
  | call request =>
      cases stepped
      have authenticated := settled db (request.authenticate db) present
      simp only [Call.serve]
      split
      · exact authenticated
      · exact settled _ _ authenticated
  | login deployment readings payload =>
      cases stepped
      exact settled db _ present
  | bootstrap deployment request =>
      cases stepped
      exact settled db _ present
  | work transaction =>
      cases stepped
      cases committed : db.commit transaction.writes with
      | none => exact present
      | some next => exact commit_hasOrganization committed present

theorem run_owners {final : Database} {events : List Event} (reachable : db.Reachable)
    (present : db.hasOrganization organizationId = true)
    (ran : run serverStep db events = some final)
    (below : Along serverStep (fun current event _ => event.BelowOwner organizationId current)
      db events) :
    final.isOwnerOf organizationId = db.isOwnerOf organizationId := by
  have reached := Transitions.invariant
    (fun current => current.Consistent ∧ current.IdentityConsistent ∧
      current.hasOrganization organizationId = true ∧
      current.isOwnerOf organizationId = db.isOwnerOf organizationId)
    (fun current event next holds stepped allowed =>
      ⟨serverStep_consistent current event next holds.1 stepped,
        serverStep_identityConsistent current event next holds.2.1 stepped,
        serverStep_hasOrganization holds.2.2.1 stepped,
        (serverStep_owners holds.1 holds.2.1 holds.2.2.1 allowed stepped).trans holds.2.2.2⟩)
    (run_eq_some_iff.mp ran)
    ⟨reachable.consistent, reachable.identityConsistent, present, rfl⟩ below
  exact reached.2.2.2

theorem eq_owner_of_admin_lt {role : Role} (above : Role.admin.level < role.level) :
    role = .owner := by
  cases role with
  | owner => rfl
  | viewer | evaluator | admin => exact absurd above (by decide)

theorem exists_admin_lt_of_owners {db next : Database} {organizationId : String}
    (same : next.isOwnerOf organizationId = db.isOwnerOf organizationId)
    {membership : Membership} (member : membership ∈ next.membersOf organizationId)
    (above : Role.admin.level < membership.role.level) :
    ∃ before ∈ db.membersOf organizationId,
      before.userId = membership.userId ∧ Role.admin.level < before.role.level := by
  have owner : next.isOwnerOf organizationId membership.userId = true := by
    rw [isOwnerOf_eq_any]
    exact List.any_eq_true.mpr ⟨membership, member, by simp [eq_owner_of_admin_lt above]⟩
  rw [same, isOwnerOf_eq_any] at owner
  rcases List.any_eq_true.mp owner with ⟨before, stored, selected⟩
  rw [Bool.and_eq_true, beq_iff_eq, beq_iff_eq] at selected
  refine ⟨before, stored, selected.1, ?_⟩
  rw [selected.2]
  decide

/-- A request changes what the role of its principal allows, and a run below the
owners of an organization makes no owner, removes none and raises no member
above `admin`. -/
theorem reachable_confined {db : Database} (reachable : db.Reachable) :
    (∀ (call : Call) (principal : Principal), call.principal? db = some principal →
      Confined principal db (call.serve db).1) ∧
    ∀ (organizationId : String) (events : List Event) (final : Database),
      db.hasOrganization organizationId = true →
      run serverStep db events = some final →
      Along serverStep (fun current event _ => event.BelowOwner organizationId current)
        db events →
      final.isOwnerOf organizationId = db.isOwnerOf organizationId ∧
      ∀ membership ∈ final.membersOf organizationId,
        Role.admin.level < membership.role.level →
        ∃ before ∈ db.membersOf organizationId,
          before.userId = membership.userId ∧ Role.admin.level < before.role.level := by
  constructor
  · intro call principal found
    exact call.serve_confined reachable.consistent reachable.identityConsistent found
  · intro organizationId events final present ran below
    have owners := run_owners reachable present ran below
    exact ⟨owners, fun membership member above =>
      exists_admin_lt_of_owners owners member above⟩

end

namespace Scenario

/-- Alice bootstraps an organization, adds Bob to it as a viewer, and he logs in. -/
def memberEvents : List Event := [
  .bootstrap devDeployment (bootstrapOf "alice" "alpha"),
  .call (namedCall "bob" { xEvalforgeApiKey := some "efs_alice" } (.identity (.addMember
    { email := "bob@example.com", displayName := "Bob", password := some "another-password"
      role := .viewer }))),
  .login devDeployment (namedReadings "bob").toRequestReadings
    { email := "bob@example.com", password := "another-password"
      organizationSlug := some "alpha" }]

def bob : Principal where
  userId := some "bob-0"
  organizationId := "alice0"
  role := .viewer
  authenticationType := .session
  sessionId := some "bob-0"

def bobCall : Call :=
  namedCall "removal" { xEvalforgeApiKey := some "efs_bob" } (.identity (.removeMember "alice1"))

theorem principal?_bobCall : bobCall.principal? (stateAfter memberEvents) = some bob := rfl

end Scenario

theorem reachable_confined_scenario :
    Confined Scenario.bob (Scenario.stateAfter Scenario.memberEvents)
        (Scenario.bobCall.serve (Scenario.stateAfter Scenario.memberEvents)).1 ∧
      (Scenario.bobCall.serve (Scenario.stateAfter Scenario.memberEvents)).1.isOwnerOf "alice0" =
        (Scenario.stateAfter Scenario.memberEvents).isOwnerOf "alice0" := by
  have confined := reachable_confined ⟨0, Scenario.memberEvents, rfl⟩
  refine ⟨confined.1 Scenario.bobCall Scenario.bob Scenario.principal?_bobCall, ?_⟩
  refine (confined.2 "alice0" [.call Scenario.bobCall] _ (by decide +kernel) rfl ?_).1
  intro next _
  refine ⟨fun principal found _ => ?_, trivial⟩
  cases Scenario.principal?_bobCall.symm.trans found
  decide

end EvalForge
