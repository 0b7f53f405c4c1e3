import EvalForge.Api.IssuedTokens

/-! # Owners

Requests that are executed one after the other leave every organization its
owners: a change of a member is refused where it would take the last one, and an
organization is created together with its first.
-/

namespace EvalForge

open Foundation

/-- An organization that has an owner keeps one, and a new one has one. -/
structure OwnersStay (db next : Database) : Prop where
  kept : ∀ organizationId, 1 ≤ db.ownerCount organizationId → 1 ≤ next.ownerCount organizationId
  added : ∀ organization ∈ next.organizations,
    organization ∈ db.organizations ∨ 1 ≤ next.ownerCount organization.id

namespace OwnersStay

variable {first second third db next : Database}

theorem refl (db : Database) : OwnersStay db db where
  kept _ owned := owned
  added _ member := .inl member

theorem trans (before : OwnersStay first second) (after : OwnersStay second third) :
    OwnersStay first third where
  kept organizationId owned := after.kept organizationId (before.kept organizationId owned)
  added organization member := by
    rcases after.added organization member with stored | owned
    · exact (before.added organization stored).imp_right (after.kept organization.id)
    · exact .inr owned

theorem of_same (memberships : next.memberships = db.memberships)
    (organizations : next.organizations = db.organizations) : OwnersStay db next where
  kept organizationId owned := by
    rw [Database.ownerCount, memberships]
    exact owned
  added organization member := .inl (organizations ▸ member)

theorem of_besidesCredentials (same : SameBesidesCredentials db next) : OwnersStay db next :=
  of_same same.memberships same.organizations

theorem of_identityTables (same : next.identityTables = db.identityTables) :
    OwnersStay db next := by
  have memberships := congrArg Database.memberships same
  have organizations := congrArg Database.organizations same
  exact of_same memberships organizations

theorem of_credentials {writes : List Write}
    (onCredentials : ∀ write ∈ writes, write.onCredentials = true)
    (committed : db.commit writes = some next) : OwnersStay db next := by
  rcases commit_onCredentials onCredentials committed with ⟨memberships, organizations⟩
  exact of_same memberships organizations

theorem ownerCount_append (memberships : List Membership) (organizationId : String) :
    db.ownerCount organizationId ≤
      Database.ownerCount { db with memberships := db.memberships ++ memberships }
        organizationId := by
  rw [Database.ownerCount, Database.ownerCount, List.countP_append]
  exact Nat.le_add_right _ _

theorem insertMembership {membership : Membership}
    (applied : db.apply (.insertMembership membership) = some next) : OwnersStay db next := by
  rcases apply_insertMembership applied with ⟨-, -, rfl⟩
  exact {
    kept := fun organizationId owned => owned.trans (ownerCount_append _ organizationId)
    added := fun _ member => .inl member }

theorem ownerCount_new {memberships : List Membership} {membership : Membership}
    (member : membership ∈ memberships) (owner : membership.role = .owner)
    (same : db.memberships = memberships) : 1 ≤ db.ownerCount membership.organizationId := by
  refine List.countP_pos_iff.mpr ⟨membership, same ▸ member, ?_⟩
  simp [owner]

theorem insertOrganization {organization : Organization} {membership : Membership}
    (ofOrganization : membership.organizationId = organization.id)
    (owner : membership.role = .owner)
    (committed : db.commit [.insertOrganization organization, .insertMembership membership] =
      some next) : OwnersStay db next := by
  rcases commit_cons committed with ⟨middle, organized, rest⟩
  rcases commit_cons rest with ⟨last, joined, done⟩
  cases done
  rcases apply_insertOrganization organized with ⟨-, rfl⟩
  have stays := insertMembership joined
  rcases apply_insertMembership joined with ⟨-, -, rfl⟩
  refine ⟨stays.kept, fun other member => ?_⟩
  rcases List.mem_append.mp member with stored | new
  · exact .inl stored
  · rw [List.mem_singleton.mp new, ← ofOrganization]
    exact .inr (ownerCount_new (List.mem_append_right _ List.mem_cons_self) owner rfl)

theorem otherOwners_of_several {organizationId userId : String} (keyed : db.MembershipsKeyed)
    (owned : 1 ≤ db.ownerCount organizationId)
    (several : db.isOwnerOf organizationId userId = false ∨ 2 ≤ db.ownerCount organizationId) :
    1 ≤ db.otherOwners organizationId userId := by
  have split := db.ownerCount_eq organizationId userId
  cases isOwner : db.isOwnerOf organizationId userId with
  | false =>
      have rows := Database.ownerRows_eq_zero isOwner
      omega
  | true =>
      have rows := Database.ownerRows_eq_one keyed isOwner
      rcases several with notOwner | two
      · cases isOwner.symm.trans notOwner
      · omega

theorem assign {organizationId userId : String} {role : Role}
    (several : role = .owner ∨ db.isOwnerOf organizationId userId = false ∨
      2 ≤ db.ownerCount organizationId)
    (keyed : db.MembershipsKeyed)
    (applied : db.apply (.setRole organizationId userId role) = some next) :
    OwnersStay db next := by
  have organizations : next.organizations = db.organizations := by
    cases applied
    rfl
  refine ⟨fun other owned => ?_, fun organization member => .inl (organizations ▸ member)⟩
  rcases Database.ownerCount_setRole other applied with ⟨elsewhere, taken, given⟩
  by_cases same : organizationId = other
  · by_cases ownerRole : role = .owner
    · exact owned.trans (given ownerRole)
    · rw [taken same ownerRole]
      rw [same] at several
      exact otherOwners_of_several keyed owned (several.resolve_left ownerRole)
  · rw [elsewhere same]
    exact owned

theorem remove {organizationId userId : String}
    (several : db.isOwnerOf organizationId userId = false ∨ 2 ≤ db.ownerCount organizationId)
    (keyed : db.MembershipsKeyed)
    (applied : db.apply (.deleteMembership organizationId userId) = some next) :
    OwnersStay db next := by
  have organizations : next.organizations = db.organizations := by
    cases applied
    rfl
  refine ⟨fun other owned => ?_, fun organization member => .inl (organizations ▸ member)⟩
  rw [Database.ownerCount_deleteMembership other applied]
  split
  · next same =>
      rw [same] at several
      exact otherOwners_of_several keyed owned several
  · exact owned

end OwnersStay

/-! ## Requests -/

section

variable {db next : Database} {principal : Principal}

theorem changeMember_several {userId : String} {change : MemberChange} {writes : List Write}
    {membership : Membership}
    (changed : changeMember db principal userId change = .ok (writes, membership))
    (takes : change.takesOwner = true) (owner : membership.role = .owner) :
    2 ≤ db.ownerCount principal.organizationId := by
  unfold changeMember at changed
  rcases bind_eq_ok_iff.mp changed with ⟨_, -, changed⟩
  rcases bind_eq_ok_iff.mp changed with ⟨found, -, changed⟩
  rcases bind_eq_ok_iff.mp changed with ⟨_, -, changed⟩
  simp only [] at changed
  split at changed
  · rcases bind_eq_ok_iff.mp changed with ⟨_, ensured, -⟩
    exact ensureNotLastOwner_eq_ok_iff.mp ensured
  · next uncounted =>
      rcases bind_eq_ok_iff.mp changed with ⟨_, -, changed⟩
      cases changed
      simp [MemberChange.countsOwners, owner, takes] at uncounted

theorem isOwnerOf_eq_false {organizationId userId : String} {membership : Membership}
    (keyed : db.MembershipsKeyed)
    (found : db.membership? organizationId userId = some membership)
    (notOwner : membership.role ≠ .owner) : db.isOwnerOf organizationId userId = false := by
  rw [Database.isOwnerOf, List.any_eq_false]
  intro other member selected
  simp only [Bool.and_eq_true, beq_iff_eq] at selected
  rw [eq_of_membership? keyed found member selected.1.1 selected.1.2] at selected
  exact notOwner selected.2

theorem changeMember_owners {userId : String} {change : MemberChange} {writes : List Write}
    {membership : Membership} (keyed : db.MembershipsKeyed)
    (changed : changeMember db principal userId change = .ok (writes, membership))
    (committed : db.commit writes = some next) : OwnersStay db next := by
  rcases changeMember_ok changed with ⟨-, found, -, flushed⟩
  have selected := List.find?_some found
  rw [Bool.and_eq_true, beq_iff_eq, beq_iff_eq] at selected
  have several (takes : change.takesOwner = true) :
      db.isOwnerOf principal.organizationId userId = false ∨
        2 ≤ db.ownerCount principal.organizationId := by
    by_cases owner : membership.role = .owner
    · exact .inr (changeMember_several changed takes owner)
    · exact .inl (isOwnerOf_eq_false keyed found owner)
  have flushes := flushMemberChange_flushed db change membership
  rw [flushed] at flushes
  cases flushes with
  | same =>
      cases committed
      exact .refl db
  | assigned role differs =>
      rw [selected.1, selected.2] at committed
      rcases commit_cons committed with ⟨last, applied, done⟩
      cases done
      refine OwnersStay.assign ?_ keyed applied
      by_cases ownerRole : role = .owner
      · exact .inl ownerRole
      · exact .inr (several (by simp [MemberChange.takesOwner, ownerRole]))
  | removed =>
      rw [selected.1, selected.2] at committed
      rcases commit_cons committed with ⟨last, applied, done⟩
      cases done
      exact OwnersStay.remove (several rfl) keyed applied

end

def Write.addsMembers (write : Write) : Bool :=
  write.onCredentials ||
    match write with
    | .insertMembership .. => true
    | _ => false

theorem OwnersStay.of_addsMembers {db next : Database} {writes : List Write}
    (adds : ∀ write ∈ writes, write.addsMembers = true)
    (committed : db.commit writes = some next) : OwnersStay db next := by
  refine commit_keeps (OwnersStay db) (·.addsMembers = true) ?_ adds (.refl db) committed
  intro current after write allowed kept applied
  refine kept.trans ?_
  rcases Bool.or_eq_true_iff.mp allowed with onCredentials | inserts
  · have alone : current.commit [write] = some after :=
      Option.bind_eq_some_iff.mpr ⟨after, applied, rfl⟩
    exact .of_credentials (List.forall_mem_singleton.mpr onCredentials) alone
  · split at inserts
    · exact .insertMembership applied
    · cases inserts

theorem addsMembers_of_onCredentials {write : Write} (onCredentials : write.onCredentials = true) :
    write.addsMembers = true :=
  Bool.or_eq_true_iff.mpr (.inl onCredentials)

section

variable {db next : Database} {principal : Principal}
variable {context : BootstrapContext} {readings : RequestReadings}

theorem ofExcept_writes {Answer : Type} (Allowed : List Write → Prop)
    {result : Except HttpError (List Write × Answer)} (nothing : Allowed [])
    (each : ∀ writes answer, result = .ok (writes, answer) → Allowed writes) :
    Allowed (Reply.ofExcept result).writes := by
  cases result with
  | error error => exact nothing
  | ok pair => exact each pair.1 pair.2 rfl

theorem addMember_addsMembers {hashPassword : String → String → String} {payload : MemberCreate} :
    ∀ write ∈ (addMember hashPassword readings db principal payload).writes,
      write.addsMembers = true := by
  refine ofExcept_writes (fun writes => ∀ write ∈ writes, write.addsMembers = true)
    (List.forall_mem_nil _) fun writes answer accepted => ?_
  rcases bind_eq_ok_iff.mp accepted with ⟨_, -, accepted⟩
  have created (accepted : (do
      let found ← findOrCreateUser hashPassword readings db payload
      if (db.membership? principal.organizationId found.2.id).isSome then
        throw (httpError 409 "User is already a member of this organization")
      let membership : Membership :=
        { organizationId := principal.organizationId, userId := found.2.id, role := payload.role
          createdAt := readings.utcNow 1 }
      return (found.1 ++ [.insertMembership membership],
        ({ user := found.2.read, role := payload.role, joinedAt := membership.createdAt } :
          MemberRead))) = Except.ok (writes, answer)) :
      ∀ write ∈ writes, write.addsMembers = true := by
    rcases bind_eq_ok_iff.mp accepted with ⟨⟨users, user⟩, found, accepted⟩
    simp only [] at accepted
    split at accepted
    · cases accepted
    · cases accepted
      intro write member
      rcases List.mem_append.mp member with new | joined
      · exact addsMembers_of_onCredentials (findOrCreateUser_onCredentials found write new)
      · rw [List.mem_singleton.mp joined]
        rfl
  simp only [] at accepted
  split at accepted
  · rcases bind_eq_ok_iff.mp accepted with ⟨_, -, accepted⟩
    exact created accepted
  · exact created accepted

theorem logout_onCredentials :
    ∀ write ∈ (logout readings db principal).writes, write.onCredentials = true := by
  simp only [logout]
  split
  · split
    · exact List.forall_mem_singleton.mpr rfl
    · exact List.forall_mem_nil _
  · exact List.forall_mem_nil _

theorem changePassword_onCredentials {payload : PasswordChange} :
    ∀ write ∈ (changePassword context readings db principal payload).writes,
      write.onCredentials = true := by
  refine ofExcept_writes (fun writes => ∀ write ∈ writes, write.onCredentials = true)
    (List.forall_mem_nil _) fun writes answer accepted => ?_
  rcases bind_eq_ok_iff.mp accepted with ⟨user, -, accepted⟩
  simp only [] at accepted
  split at accepted
  · cases accepted
  · cases accepted
    intro write member
    rcases List.mem_cons.mp member with rfl | session
    · rfl
    · rcases List.mem_map.mp session with ⟨authSession, -, rfl⟩
      rfl

theorem switchOrganization_onCredentials {payload : OrganizationSwitch} :
    ∀ write ∈ (switchOrganization context readings db principal payload).writes,
      write.onCredentials = true := by
  refine ofExcept_writes (fun writes => ∀ write ∈ writes, write.onCredentials = true)
    (List.forall_mem_nil _) fun writes answer accepted => ?_
  rcases bind_eq_ok_iff.mp accepted with ⟨user, -, accepted⟩
  simp only [] at accepted
  split at accepted
  · cases accepted
  · cases accepted
    exact List.forall_mem_singleton.mpr rfl

theorem createApiKey_onCredentials {payload : ApiKeyCreate} :
    ∀ write ∈ (createApiKey context readings db principal payload).writes,
      write.onCredentials = true := by
  refine ofExcept_writes (fun writes => ∀ write ∈ writes, write.onCredentials = true)
    (List.forall_mem_nil _) fun writes answer accepted => ?_
  rcases bind_eq_ok_iff.mp accepted with ⟨user, -, accepted⟩
  simp only [] at accepted
  split at accepted
  · cases accepted
  · cases accepted
    exact List.forall_mem_singleton.mpr rfl

theorem revokeApiKey_onCredentials {apiKeyId : String} :
    ∀ write ∈ (revokeApiKey readings db principal apiKeyId).writes,
      write.onCredentials = true := by
  refine ofExcept_writes (fun writes => ∀ write ∈ writes, write.onCredentials = true)
    (List.forall_mem_nil _) fun writes answer accepted => ?_
  rcases bind_eq_ok_iff.mp accepted with ⟨user, -, accepted⟩
  simp only [] at accepted
  split at accepted
  · cases accepted
  · cases accepted
    split
    · exact List.forall_mem_singleton.mpr rfl
    · exact List.forall_mem_nil _

theorem createOrganization_owners {payload : OrganizationCreate}
    (committed : db.commit (createOrganization readings db principal payload).writes =
      some next) : OwnersStay db next := by
  refine ofExcept_writes (fun writes => db.commit writes = some next → OwnersStay db next)
    ?_ ?_ committed
  · intro unchanged
    cases unchanged
    exact .refl db
  · intro writes answer accepted committed
    rcases bind_eq_ok_iff.mp accepted with ⟨userId, -, accepted⟩
    simp only [] at accepted
    split at accepted
    · cases accepted
    · cases accepted
      exact .insertOrganization rfl rfl committed

theorem updateMember_owners {userId : String} {payload : MemberRoleUpdate}
    (keyed : db.MembershipsKeyed)
    (committed : db.commit (updateMember db principal userId payload).writes = some next) :
    OwnersStay db next := by
  unfold updateMember at committed
  split at committed
  · cases committed
    exact .refl db
  · next changed => exact changeMember_owners keyed changed committed

theorem removeMember_owners {userId : String} (keyed : db.MembershipsKeyed)
    (committed : db.commit (removeMember db principal userId).writes = some next) :
    OwnersStay db next := by
  cases changed : changeMember db principal userId .remove with
  | error error =>
      rw [removeMember, changed] at committed
      cases committed
      exact .refl db
  | ok pair =>
      rw [removeMember, changed] at committed
      exact changeMember_owners keyed changed committed

theorem IdentityRequest.handle_owners (request : IdentityRequest) (keyed : db.MembershipsKeyed)
    (committed : db.commit (request.handle context readings db principal).writes = some next) :
    OwnersStay db next := by
  have unchanged {writes : List Write} (nothing : writes = [])
      (committed : db.commit writes = some next) : OwnersStay db next := by
    rw [nothing] at committed
    cases committed
    exact .refl db
  cases request with
  | listOrganizations =>
      refine unchanged (ofExcept_writes (· = []) rfl fun writes answer accepted => ?_) committed
      rcases bind_eq_ok_iff.mp accepted with ⟨userId, -, accepted⟩
      cases accepted
      rfl
  | currentOrganization =>
      refine unchanged (ofExcept_writes (· = []) rfl fun writes answer accepted => ?_) committed
      split at accepted
      · cases accepted
        rfl
      · cases accepted
  | createOrganization payload => exact createOrganization_owners committed
  | listMembers => exact unchanged rfl committed
  | addMember payload => exact .of_addsMembers addMember_addsMembers committed
  | updateMember userId payload => exact updateMember_owners keyed committed
  | removeMember userId => exact removeMember_owners keyed committed
  | currentPrincipal =>
      refine unchanged (ofExcept_writes (· = []) rfl fun writes answer accepted => ?_) committed
      split at accepted
      · cases accepted
      · cases accepted
        rfl
  | logout => exact .of_credentials logout_onCredentials committed
  | changePassword payload => exact .of_credentials changePassword_onCredentials committed
  | switchOrganization payload =>
      exact .of_credentials switchOrganization_onCredentials committed
  | listApiKeys =>
      refine unchanged (ofExcept_writes (· = []) rfl fun writes answer accepted => ?_) committed
      rcases bind_eq_ok_iff.mp accepted with ⟨user, -, accepted⟩
      cases accepted
      rfl
  | createApiKey payload => exact .of_credentials createApiKey_onCredentials committed
  | revokeApiKey apiKeyId => exact .of_credentials revokeApiKey_onCredentials committed

theorem bootstrapped_owners {request : BootstrapRequest} {organization : Organization}
    {created : Bool}
    (committed : db.commit (BootstrapTransaction.allWrites context request organization created) =
      some next) : OwnersStay db next := by
  rcases commit_allWrites_iff.mp committed with ⟨-, rfl⟩
  refine ⟨fun organizationId owned => ?_, fun other member => ?_⟩
  · exact owned.trans (OwnersStay.ownerCount_append _ organizationId)
  · rcases List.mem_append.mp member with stored | new
    · exact .inl stored
    · split at new
      · rw [List.mem_singleton.mp new]
        have joined : request.newMembership organization ∈
            db.memberships ++ [request.newMembership organization] :=
          List.mem_append_right _ List.mem_cons_self
        exact .inr (OwnersStay.ownerCount_new joined rfl rfl)
      · cases new

theorem bootstrap_owners {request : BootstrapRequest}
    (committed : db.commit (bootstrap context db request).writes = some next) :
    OwnersStay db next := by
  simp only [bootstrap] at committed
  split at committed
  · cases committed
    exact .refl db
  · split at committed
    · cases committed
      exact .refl db
    · exact bootstrapped_owners committed

theorem requestWrites_owners {runMode : String} {issued : String → Prop} {writes : List Write}
    (written : RequestWrites runMode principal db issued writes)
    (committed : db.commit writes = some next) : OwnersStay db next := by
  rcases written with rfl | ⟨inserts, updates, rfl, created, byWorker, -⟩
  · cases committed
    exact .refl db
  · rw [Database.commit_append] at committed
    rcases Option.bind_eq_some_iff.mp committed with ⟨middle, inserted, updated⟩
    exact .of_identityTables ((commit_byWorker_identityTables byWorker updated).trans
      (commit_admits_identityTables created.admits inserted))

end

/-! ## Runs -/

section

variable {db next later : Database}

theorem OwnersStay.settle {Answer : Type} {reply : Reply Answer}
    (stays : ∀ next, db.commit reply.writes = some next → OwnersStay db next) :
    OwnersStay db (Reply.settle db reply).1 :=
  settle_keeps (OwnersStay db) (.refl db) stays

theorem ApiRequest.handle_owners {principal : Principal} (deployment : Deployment)
    (readings : Readings) (request : ApiRequest) (consistent : db.Consistent)
    (keyed : db.MembershipsKeyed)
    (committed : db.commit (request.handle deployment readings db principal).writes = some next) :
    OwnersStay db next := by
  cases request with
  | tenant request =>
      exact requestWrites_owners (request.handle_writes deployment readings consistent) committed
  | identity request => exact request.handle_owners keyed committed

theorem serverStep_ownersStay {event : Event} (consistent : db.Consistent)
    (identities : db.IdentityConsistent) (stepped : serverStep db event = some next) :
    OwnersStay db next := by
  cases event with
  | call call =>
      cases stepped
      cases found : call.principal? db with
      | none => exact .of_besidesCredentials (call.serve_refused found)
      | some principal =>
          rcases call.principal?_eq_some found with ⟨-, settled⟩
          rw [Call.serve_of_settled settled]
          refine (OwnersStay.of_besidesCredentials (call.authenticate_same db)).trans
            (.settle fun next committed => ?_)
          exact call.request.handle_owners call.deployment call.readings
            (call.authenticate_consistent consistent) (identities.settle _).memberships committed
  | login deployment readings payload =>
      cases stepped
      exact .of_besidesCredentials (settle_onCredentials loginUser_writes)
  | bootstrap deployment request =>
      cases stepped
      exact .settle fun next committed => bootstrap_owners committed
  | work transaction =>
      cases stepped
      cases committed : db.commit transaction.writes with
      | none => exact .refl db
      | some next =>
          exact .of_identityTables
            (commit_byWorker_identityTables transaction.byWorker committed)

/-- A migrated database has no organization but the default one. -/
def Database.OrganizationsOwned (db : Database) : Prop :=
  ∀ organization ∈ db.organizations,
    organization.id = defaultOrganizationId ∨ 1 ≤ db.ownerCount organization.id

theorem Database.OrganizationsOwned.step (owned : db.OrganizationsOwned)
    (stays : OwnersStay db next) : next.OrganizationsOwned := by
  intro organization member
  rcases stays.added organization member with stored | new
  · exact (owned organization stored).imp_right (stays.kept organization.id)
  · exact .inr new

theorem run_ownersStay {events : List Event} (reachable : db.Reachable)
    (ran : run serverStep db events = some later) : OwnersStay db later := by
  have reached := run_invariant
    (fun current => current.Consistent ∧ current.IdentityConsistent ∧ OwnersStay db current)
    (fun current event next holds stepped =>
      ⟨serverStep_consistent current event next holds.1 stepped,
        serverStep_identityConsistent current event next holds.2.1 stepped,
        holds.2.2.trans (serverStep_ownersStay holds.1 holds.2.1 stepped)⟩)
    ran ⟨reachable.consistent, reachable.identityConsistent, .refl db⟩
  exact reached.2.2

theorem reachable_migrated (createdAt : Nat) : (Database.migrated createdAt).Reachable :=
  ⟨createdAt, [], rfl⟩

theorem Database.Reachable.organizationsOwned (reachable : db.Reachable) :
    db.OrganizationsOwned := by
  rcases reachable with ⟨createdAt, events, ran⟩
  refine Database.OrganizationsOwned.step ?_ (run_ownersStay (reachable_migrated createdAt) ran)
  intro organization member
  rw [List.mem_singleton.mp member]
  exact .inl rfl

theorem bootstrap_refused_later {events : List Event} (users : db.users ≠ [])
    (ran : run serverStep db events = some later) (context : BootstrapContext)
    (request : BootstrapRequest) :
    (bootstrap context later request).writes = [] ∧
      ∀ answer, (bootstrap context later request).answer ≠ .ok answer := by
  have stay : later.users.length ≠ 0 := by
    rcases List.exists_mem_of_ne_nil _ users with ⟨user, member⟩
    rcases (run_precedes ran).users.exists_mem member with ⟨other, stored, -⟩
    exact (List.length_pos_of_mem stored).ne'
  simp only [bootstrap]
  split
  · exact ⟨rfl, fun _ accepted => by cases accepted⟩
  · rw [if_pos stay]
    exact ⟨rfl, fun _ accepted => by cases accepted⟩

theorem bootstrap_users {context : BootstrapContext} {request : BootstrapRequest}
    {answer : TokenRead}
    (answered : (Reply.settle db (bootstrap context db request)).2 = .ok answer) :
    (Reply.settle db (bootstrap context db request)).1.users ≠ [] := by
  rcases bootstrap_issues answered with ⟨_, _, issued⟩
  rcases issued.active with ⟨user, stored, -⟩
  exact List.ne_nil_of_mem stored

end

structure OwnersKept (db : Database) : Prop where
  owned : db.OrganizationsOwned
  kept : ∀ events later, run serverStep db events = some later → ∀ organizationId,
    1 ≤ db.ownerCount organizationId → 1 ≤ later.ownerCount organizationId
  once : ∀ (context : BootstrapContext) request answer,
    (Reply.settle db (bootstrap context db request)).2 = .ok answer →
    ∀ events later,
      run serverStep (Reply.settle db (bootstrap context db request)).1 events = some later →
    ∀ (other : BootstrapContext) again, (bootstrap other later again).writes = [] ∧
      ∀ secondAnswer, (bootstrap other later again).answer ≠ .ok secondAnswer

/-- One after the other, no requests leave an organization without an owner. -/
theorem owners_kept {db : Database} (reachable : db.Reachable) : OwnersKept db where
  owned := reachable.organizationsOwned
  kept _ _ ran := (run_ownersStay reachable ran).kept
  once _ _ _ answered _ _ ran := bootstrap_refused_later (bootstrap_users answered) ran

/-- Alice owns the organization that Bob is a viewer of. -/
theorem owners_kept_scenario :
    (Scenario.stateAfter Scenario.memberEvents).ownerCount "alice0" = 1 ∧
      OwnersKept (Scenario.stateAfter Scenario.memberEvents) :=
  ⟨by decide +kernel, owners_kept ⟨0, Scenario.memberEvents, rfl⟩⟩

end EvalForge
