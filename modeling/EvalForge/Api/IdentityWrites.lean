import EvalForge.Api.Serve
import EvalForge.Db.Frames

/-! # What the identity handlers write

The authentication of a request, a login, the bootstrap and the requests on
organizations, members and credentials.
-/

namespace EvalForge

/-- The statements on users and credentials, not on organizations or members. -/
def Write.onCredentials : Write → Bool
  | .insertUser .. | .setLockout .. | .setPasswordHash .. | .insertAuthSession ..
  | .revokeSession .. | .insertApiKey .. | .touchApiKey .. | .revokeApiKey .. => true
  | _ => false

theorem onIdentity_of_onCredentials {write : Write} (credentials : write.onCredentials = true) :
    write.onIdentity = true := by
  cases write <;> first | rfl | cases credentials

inductive IdentityWrites (principal : Principal) (db : Database) : List Write → Prop
  | credentials (writes : List Write)
      (onCredentials : ∀ write ∈ writes, write.onCredentials = true) :
      IdentityWrites principal db writes
  | organization (organization : Organization) (membership : Membership)
      (first : membership.organizationId = organization.id) :
      IdentityWrites principal db
        [.insertOrganization organization, .insertMembership membership]
  | member (users : List Write) (membership : Membership)
      (onCredentials : ∀ write ∈ users, write.onCredentials = true)
      (admin : Role.admin.level ≤ principal.role.level)
      (own : membership.organizationId = principal.organizationId)
      (byOwner : membership.role = .owner → principal.role = .owner) :
      IdentityWrites principal db (users ++ [.insertMembership membership])
  | assign (membership : Membership) (role : Role)
      (admin : Role.admin.level ≤ principal.role.level)
      (found : db.membership? principal.organizationId membership.userId = some membership)
      (byOwner : membership.role = .owner ∨ role = .owner → principal.role = .owner) :
      IdentityWrites principal db
        [.setRole principal.organizationId membership.userId role]
  | remove (membership : Membership) (admin : Role.admin.level ≤ principal.role.level)
      (found : db.membership? principal.organizationId membership.userId = some membership)
      (byOwner : membership.role = .owner → principal.role = .owner) :
      IdentityWrites principal db
        [.deleteMembership principal.organizationId membership.userId]

section

variable {principal : Principal} {db : Database}

theorem IdentityWrites.onIdentity {writes : List Write}
    (written : IdentityWrites principal db writes) :
    ∀ write ∈ writes, write.onIdentity = true := by
  intro write member
  cases written with
  | credentials _ onCredentials =>
      exact onIdentity_of_onCredentials (onCredentials write member)
  | organization organization membership =>
      rcases List.mem_cons.mp member with rfl | member
      · rfl
      · rw [List.mem_singleton.mp member]
        rfl
  | member users membership onCredentials =>
      rcases List.mem_append.mp member with user | last
      · exact onIdentity_of_onCredentials (onCredentials write user)
      · rw [List.mem_singleton.mp last]
        rfl
  | assign membership role =>
      rw [List.mem_singleton.mp member]
      rfl
  | remove membership =>
      rw [List.mem_singleton.mp member]
      rfl

theorem IdentityWrites.nil : IdentityWrites principal db [] :=
  .credentials [] (List.forall_mem_nil _)

theorem IdentityWrites.ofExcept {Answer : Type} {result : Except HttpError (List Write × Answer)}
    (accepted : ∀ {writes answer}, result = .ok (writes, answer) →
      IdentityWrites principal db writes) :
    IdentityWrites principal db (Reply.ofExcept result).writes := by
  cases result with
  | error error => exact .nil
  | ok pair => exact accepted rfl

/-! ## Members -/

theorem level_le_owner {role : Role} (reached : Role.owner.level ≤ role.level) :
    role = .owner := by
  cases role with
  | owner => rfl
  | viewer | evaluator | admin => exact absurd reached (by decide)

theorem findOrCreateUser_onCredentials {hashPassword : String → String → String}
    {readings : RequestReadings} {payload : MemberCreate} {writes : List Write} {user : User}
    (found : findOrCreateUser hashPassword readings db payload = .ok (writes, user)) :
    ∀ write ∈ writes, write.onCredentials = true := by
  simp only [findOrCreateUser] at found
  split at found
  · split at found
    · cases found
    · cases found
      exact List.forall_mem_nil _
  · cases found
  · split at found
    · cases found
    · cases found
      exact List.forall_mem_singleton.mpr rfl

theorem addMember_writes {hashPassword : String → String → String} {readings : RequestReadings}
    {payload : MemberCreate} :
    IdentityWrites principal db
      (addMember hashPassword readings db principal payload).writes := by
  refine .ofExcept fun {writes answer} accepted => ?_
  rcases bind_eq_ok_iff.mp accepted with ⟨_, admin, accepted⟩
  have written : (payload.role = .owner → principal.role = .owner) ∧
      ∃ users user, findOrCreateUser hashPassword readings db payload = .ok (users, user) ∧
        writes = users ++ [.insertMembership {
          organizationId := principal.organizationId, userId := user.id, role := payload.role
          createdAt := readings.utcNow 1 }] := by
    simp only [] at accepted
    split at accepted
    · next owner =>
        rcases bind_eq_ok_iff.mp accepted with ⟨_, byOwner, accepted⟩
        rcases bind_eq_ok_iff.mp accepted with ⟨⟨users, user⟩, found, accepted⟩
        simp only [] at accepted
        split at accepted
        · cases accepted
        · cases accepted
          exact ⟨fun _ => level_le_owner (requireRole_eq_ok_iff.mp byOwner), users, user, found,
            rfl⟩
    · next notOwner =>
        rcases bind_eq_ok_iff.mp accepted with ⟨⟨users, user⟩, found, accepted⟩
        simp only [] at accepted
        split at accepted
        · cases accepted
        · cases accepted
          exact ⟨fun owner => absurd owner notOwner, users, user, found, rfl⟩
  rcases written with ⟨byOwner, users, user, found, rfl⟩
  exact .member users _ (findOrCreateUser_onCredentials found) (requireRole_eq_ok_iff.mp admin) rfl
    byOwner

theorem changeMember_ok {userId : String} {change : MemberChange} {writes : List Write}
    {membership : Membership}
    (changed : changeMember db principal userId change = .ok (writes, membership)) :
    Role.admin.level ≤ principal.role.level ∧
    db.membership? principal.organizationId userId = some membership ∧
    (membership.role = .owner ∨ change = .assign .owner → principal.role = .owner) ∧
    flushMemberChange db change membership = .ok writes := by
  unfold changeMember at changed
  rcases bind_eq_ok_iff.mp changed with ⟨_, admin, changed⟩
  rcases bind_eq_ok_iff.mp changed with ⟨found, loaded, changed⟩
  rcases bind_eq_ok_iff.mp changed with ⟨_, checked, changed⟩
  have flushed : flushMemberChange db change found = .ok writes ∧ found = membership := by
    simp only [] at changed
    split at changed
    · rcases bind_eq_ok_iff.mp changed with ⟨_, -, changed⟩
      rcases bind_eq_ok_iff.mp changed with ⟨_, flushed, changed⟩
      cases changed
      exact ⟨flushed, rfl⟩
    · rcases bind_eq_ok_iff.mp changed with ⟨_, flushed, changed⟩
      cases changed
      exact ⟨flushed, rfl⟩
  rcases flushed with ⟨flushed, rfl⟩
  refine ⟨requireRole_eq_ok_iff.mp admin, ?_, ?_, flushed⟩
  · unfold membershipOr404 at loaded
    split at loaded
    · next selected =>
        cases loaded
        exact selected
    · cases loaded
  · intro touchesOwner
    unfold checkMemberChange at checked
    rw [if_pos touchesOwner] at checked
    exact level_le_owner (requireRole_eq_ok_iff.mp checked)

theorem changeMember_writes {userId : String} {change : MemberChange} {writes : List Write}
    {membership : Membership}
    (changed : changeMember db principal userId change = .ok (writes, membership)) :
    IdentityWrites principal db writes := by
  rcases changeMember_ok changed with ⟨admin, found, byOwner, flushed⟩
  have selected := List.find?_some found
  rw [Bool.and_eq_true, beq_iff_eq, beq_iff_eq] at selected
  rw [← selected.2] at found
  have flushes := flushMemberChange_flushed db change membership
  rw [flushed] at flushes
  cases flushes with
  | same => exact .nil
  | assigned role differs =>
      rw [selected.1]
      refine .assign membership role admin found fun owner => byOwner ?_
      exact owner.imp_right (congrArg MemberChange.assign)
  | removed =>
      rw [selected.1]
      exact .remove membership admin found fun owner => byOwner (.inl owner)

theorem updateMember_writes {userId : String} {payload : MemberRoleUpdate} :
    IdentityWrites principal db (updateMember db principal userId payload).writes := by
  unfold updateMember
  split
  · exact .nil
  · next changed => exact changeMember_writes changed

theorem removeMember_writes {userId : String} :
    IdentityWrites principal db (removeMember db principal userId).writes := by
  refine .ofExcept fun {writes answer} accepted => ?_
  cases changed : changeMember db principal userId .remove with
  | error error =>
      rw [changed] at accepted
      cases accepted
  | ok pair =>
      rw [changed] at accepted
      cases accepted
      exact changeMember_writes changed

/-! ## Organizations and credentials -/

theorem createOrganization_writes {readings : RequestReadings} {payload : OrganizationCreate} :
    IdentityWrites principal db (createOrganization readings db principal payload).writes := by
  refine .ofExcept fun {writes answer} accepted => ?_
  rcases bind_eq_ok_iff.mp accepted with ⟨userId, -, accepted⟩
  simp only [] at accepted
  split at accepted
  · cases accepted
  · cases accepted
    exact .organization _ _ rfl

theorem logout_writes {readings : RequestReadings} :
    IdentityWrites principal db (logout readings db principal).writes := by
  refine .credentials _ ?_
  simp only [logout]
  split
  · split
    · exact List.forall_mem_singleton.mpr rfl
    · exact List.forall_mem_nil _
  · exact List.forall_mem_nil _

variable {context : BootstrapContext} {readings : RequestReadings}

theorem changePassword_writes {payload : PasswordChange} :
    IdentityWrites principal db
      (changePassword context readings db principal payload).writes := by
  refine .ofExcept fun {writes answer} accepted => ?_
  rcases bind_eq_ok_iff.mp accepted with ⟨user, -, accepted⟩
  simp only [] at accepted
  split at accepted
  · cases accepted
  · cases accepted
    refine .credentials _ fun write member => ?_
    rcases List.mem_cons.mp member with rfl | session
    · rfl
    · rcases List.mem_map.mp session with ⟨authSession, -, rfl⟩
      rfl

theorem switchOrganization_writes {payload : OrganizationSwitch} :
    IdentityWrites principal db
      (switchOrganization context readings db principal payload).writes := by
  refine .ofExcept fun {writes answer} accepted => ?_
  rcases bind_eq_ok_iff.mp accepted with ⟨user, -, accepted⟩
  simp only [] at accepted
  split at accepted
  · cases accepted
  · cases accepted
    exact .credentials _ (List.forall_mem_singleton.mpr rfl)

theorem createApiKey_writes {payload : ApiKeyCreate} :
    IdentityWrites principal db (createApiKey context readings db principal payload).writes := by
  refine .ofExcept fun {writes answer} accepted => ?_
  rcases bind_eq_ok_iff.mp accepted with ⟨user, -, accepted⟩
  simp only [] at accepted
  split at accepted
  · cases accepted
  · cases accepted
    exact .credentials _ (List.forall_mem_singleton.mpr rfl)

theorem revokeApiKey_writes {apiKeyId : String} :
    IdentityWrites principal db (revokeApiKey readings db principal apiKeyId).writes := by
  refine .ofExcept fun {writes answer} accepted => ?_
  rcases bind_eq_ok_iff.mp accepted with ⟨user, -, accepted⟩
  simp only [] at accepted
  split at accepted
  · cases accepted
  · next apiKey found =>
      cases accepted
      refine .credentials _ ?_
      split
      · exact List.forall_mem_singleton.mpr rfl
      · exact List.forall_mem_nil _

theorem IdentityRequest.handle_writes (request : IdentityRequest) :
    IdentityWrites principal db (request.handle context readings db principal).writes := by
  cases request with
  | listOrganizations =>
      refine .ofExcept fun {writes answer} accepted => ?_
      rcases bind_eq_ok_iff.mp accepted with ⟨userId, -, accepted⟩
      cases accepted
      exact .nil
  | currentOrganization =>
      refine .ofExcept fun {writes answer} accepted => ?_
      split at accepted
      · cases accepted
        exact .nil
      · cases accepted
  | createOrganization payload => exact createOrganization_writes
  | listMembers => exact .nil
  | addMember payload => exact addMember_writes
  | updateMember userId payload => exact updateMember_writes
  | removeMember userId => exact removeMember_writes
  | currentPrincipal =>
      refine .ofExcept fun {writes answer} accepted => ?_
      split at accepted
      · cases accepted
      · cases accepted
        exact .nil
  | logout => exact logout_writes
  | changePassword payload => exact changePassword_writes
  | switchOrganization payload => exact switchOrganization_writes
  | listApiKeys =>
      refine .ofExcept fun {writes answer} accepted => ?_
      rcases bind_eq_ok_iff.mp accepted with ⟨user, -, accepted⟩
      cases accepted
      exact .nil
  | createApiKey payload => exact createApiKey_writes
  | revokeApiKey apiKeyId => exact revokeApiKey_writes

/-! ## Authentication, login and bootstrap -/

def TouchesOwnKey (usedAt : Nat) (db : Database) (principal : Principal) (writes : List Write) :
    Prop :=
  ∃ apiKey ∈ db.personalApiKeys, apiKey.organizationId = principal.organizationId ∧
    writes = [.touchApiKey apiKey.id usedAt]

theorem authenticateOpaqueToken_writes {credentials : Credentials} {checkedAt usedAt : Nat}
    {token : String} {writes : List Write} {principal : Principal}
    (authenticated : authenticateOpaqueToken credentials checkedAt usedAt db token =
      some (writes, principal)) :
    writes = [] ∨ TouchesOwnKey usedAt db principal writes := by
  simp only [authenticateOpaqueToken] at authenticated
  split at authenticated
  · split at authenticated
    · cases authenticated
    · split at authenticated
      · cases authenticated
      · cases authenticated
        exact .inl rfl
  · split at authenticated
    · cases authenticated
    · next apiKey found =>
        split at authenticated
        · cases authenticated
        · split at authenticated
          · cases authenticated
          · cases authenticated
            exact .inr ⟨apiKey, List.mem_of_find?_eq_some found, rfl, rfl⟩

theorem getCurrentPrincipal_writes {settings : Settings} {credentials : Credentials}
    {checkedAt usedAt : Nat} {headers : RequestHeaders} :
    let reply := getCurrentPrincipal settings credentials checkedAt usedAt db headers
    reply.writes = [] ∨ ∃ principal, reply.answer = .ok principal ∧
      TouchesOwnKey usedAt db principal reply.writes := by
  simp only [getCurrentPrincipal]
  split
  · split
    · exact .inl rfl
    · exact .inl rfl
    · split
      · next writes principal authenticated =>
          rcases authenticateOpaqueToken_writes authenticated with unwritten | touched
          · exact .inl unwritten
          · exact .inr ⟨principal, rfl, touched⟩
      · exact .inl rfl
  · split
    · exact .inl rfl
    · exact .inl rfl

theorem Call.authenticate_touches (call : Call) (db : Database) :
    (call.authenticate db).writes = [] ∨ ∃ principal,
      (call.authenticate db).answer = .ok principal ∧
      TouchesOwnKey call.readings.usedAt db principal (call.authenticate db).writes :=
  getCurrentPrincipal_writes

theorem Call.authenticate_writes (call : Call) (db : Database) :
    ∀ write ∈ (call.authenticate db).writes, write.onCredentials = true := by
  rcases call.authenticate_touches db with unwritten | ⟨principal, -, apiKey, -, -, touched⟩
  · rw [unwritten]
    exact List.forall_mem_nil _
  · rw [touched]
    exact List.forall_mem_singleton.mpr rfl

theorem lockoutWrites_onCredentials (before after : Option User) :
    ∀ write ∈ lockoutWrites before after, write.onCredentials = true := by
  unfold lockoutWrites
  split
  · split
    · exact List.forall_mem_nil _
    · exact List.forall_mem_singleton.mpr rfl
  · exact List.forall_mem_nil _

theorem loginUser_writes {payload : LoginCreate} :
    ∀ write ∈ (loginUser context readings db payload).writes, write.onCredentials = true := by
  intro write member
  simp only [loginUser] at member
  split at member
  · exact lockoutWrites_onCredentials _ _ write member
  · rcases List.mem_append.mp member with lockout | session
    · exact lockoutWrites_onCredentials _ _ write lockout
    · rw [List.mem_singleton.mp session]
      rfl

theorem allWrites_onIdentity {request : BootstrapRequest} (organization : Organization)
    (created : Bool) :
    ∀ write ∈ BootstrapTransaction.allWrites context request organization created,
      write.onIdentity = true := by
  cases created with
  | true =>
      intro write member
      simp only [BootstrapTransaction.allWrites, BootstrapTransaction.userWrites,
        BootstrapTransaction.organizationWrites, if_true, List.cons_append, List.nil_append,
        List.mem_cons, List.not_mem_nil, or_false] at member
      rcases member with rfl | rfl | rfl | rfl <;> rfl
  | false =>
      intro write member
      simp only [BootstrapTransaction.allWrites, BootstrapTransaction.userWrites,
        BootstrapTransaction.organizationWrites, Bool.false_eq_true, if_false, List.cons_append,
        List.nil_append, List.mem_cons, List.not_mem_nil, or_false] at member
      rcases member with rfl | rfl | rfl <;> rfl

theorem bootstrap_writes {request : BootstrapRequest} :
    ∀ write ∈ (bootstrap context db request).writes, write.onIdentity = true := by
  intro write member
  simp only [bootstrap] at member
  split at member
  · cases member
  · split at member
    · cases member
    · exact allWrites_onIdentity _ _ write member

end

end EvalForge
