import EvalForge.Api.Organizations
import EvalForge.Foundation.Transitions

/-! # The last owner

Any number of role changes and removals side by side, each with its load, its
count of owners and its commit as separate statements on the committed data.
-/

namespace EvalForge

open Foundation

/-! ## The system -/

inductive MemberPhase
  | loading
  | counting (membership : Membership)
  | committing (membership : Membership)
  | answered (answer : Except HttpError Unit)

structure MemberTransaction where
  principal : Principal
  userId : String
  change : MemberChange
  phase : MemberPhase := .loading

def MemberTransaction.next (transaction : MemberTransaction) (db : Database) :
    Option (Database × MemberPhase) :=
  let principal := transaction.principal
  match transaction.phase with
  | .loading =>
      let loaded : Except HttpError Membership := do
        requireRole principal .admin
        let membership ← membershipOr404 db principal.organizationId transaction.userId
        checkMemberChange principal transaction.change membership
        return membership
      match loaded with
      | .error error => some (db, .answered (.error error))
      | .ok membership =>
          if transaction.change.countsOwners membership then some (db, .counting membership)
          else some (db, .committing membership)
  | .counting membership =>
      match ensureNotLastOwner db principal.organizationId with
      | .error error => some (db, .answered (.error error))
      | .ok () => some (db, .committing membership)
  | .committing membership =>
      match flushMemberChange db transaction.change membership with
      | .error error => some (db, .answered (.error error))
      | .ok writes =>
          match db.commit writes with
          | some next => some (next, .answered (.ok ()))
          | none => some (db, .answered (.error internalServerError))
  | .answered _ => none

structure MemberSystem where
  db : Database
  transactions : List MemberTransaction

namespace MemberSystem

def start (db : Database) (requests : List MemberTransaction) : MemberSystem where
  db := db
  transactions := requests.map fun request => { request with phase := .loading }

def step (system : MemberSystem) (index : Nat) : Option MemberSystem := do
  let transaction ← system.transactions[index]?
  let (db, phase) ← transaction.next system.db
  return { db, transactions := system.transactions.set index { transaction with phase } }

theorem step_some {system next : MemberSystem} {index : Nat}
    (stepped : system.step index = some next) :
    ∃ transaction phase, system.transactions[index]? = some transaction ∧
      transaction.next system.db = some (next.db, phase) ∧
      next.transactions = system.transactions.set index { transaction with phase } := by
  unfold step at stepped
  rcases Option.bind_eq_some_iff.mp stepped with ⟨transaction, present, rest⟩
  rcases Option.bind_eq_some_iff.mp rest with ⟨⟨db, phase⟩, moved, result⟩
  cases result
  exact ⟨transaction, phase, present, moved, rfl⟩

end MemberSystem

/-! ## The owners of an organization -/

def Database.isOwnerOf (db : Database) (organizationId userId : String) : Bool :=
  db.memberships.any fun membership =>
    membership.organizationId == organizationId && membership.userId == userId &&
      membership.role == .owner

def Membership.isOwnerIn (membership : Membership) (organizationId : String) : Bool :=
  membership.organizationId == organizationId && membership.role == .owner

def Membership.isAt (membership : Membership) (organizationId userId : String) : Bool :=
  membership.organizationId == organizationId && membership.userId == userId

def Database.otherOwners (db : Database) (organizationId userId : String) : Nat :=
  (db.memberships.filter fun membership => !membership.isAt organizationId userId).countP
    (·.isOwnerIn organizationId)

def Database.ownerRows (db : Database) (organizationId userId : String) : Nat :=
  (db.memberships.filter (·.isAt organizationId userId)).countP (·.isOwnerIn organizationId)

def Database.MembershipsKeyed (db : Database) : Prop :=
  Keyed Membership.conflicts db.memberships

section

variable {db next : Database} {organizationId userId : String} {role : Role}

theorem Database.ownerCount_eq (db : Database) (organizationId userId : String) :
    db.ownerCount organizationId =
      db.otherOwners organizationId userId + db.ownerRows organizationId userId :=
  countP_split _ _ _

theorem Database.ownerRows_eq_zero (notOwner : db.isOwnerOf organizationId userId = false) :
    db.ownerRows organizationId userId = 0 := by
  unfold ownerRows
  rw [List.countP_eq_zero]
  intro membership member owner
  rcases List.mem_filter.mp member with ⟨stored, here⟩
  have isOwner : db.isOwnerOf organizationId userId = true := by
    refine List.any_eq_true.mpr ⟨membership, stored, ?_⟩
    simp only [Membership.isAt, Membership.isOwnerIn, Bool.and_eq_true] at here owner ⊢
    exact ⟨here, owner.2⟩
  rw [notOwner] at isOwner
  cases isOwner

theorem Database.ownerRows_eq_one (keyed : db.MembershipsKeyed)
    (isOwner : db.isOwnerOf organizationId userId = true) :
    db.ownerRows organizationId userId = 1 := by
  rcases List.any_eq_true.mp isOwner with ⟨membership, member, here⟩
  have atMost : (db.memberships.filter (·.isAt organizationId userId)).length ≤ 1 := by
    refine (Keyed.filter keyed _).length_le_one ?_
    intro row rowMember other otherMember
    have rowHere := (List.mem_filter.mp rowMember).2
    have otherHere := (List.mem_filter.mp otherMember).2
    simp only [Membership.isAt, Bool.and_eq_true, beq_iff_eq] at rowHere otherHere
    simp [Membership.conflicts, rowHere, otherHere]
  have counted : 0 < db.ownerRows organizationId userId := by
    simp only [Bool.and_eq_true] at here
    refine List.countP_pos_iff.mpr ⟨membership, List.mem_filter.mpr ⟨member, ?_⟩, ?_⟩
    · simp only [Membership.isAt, Bool.and_eq_true]
      exact here.1
    · simp only [Membership.isOwnerIn, Bool.and_eq_true]
      exact ⟨here.1.1, here.2⟩
  have bounded : db.ownerRows organizationId userId ≤ 1 :=
    List.countP_le_length.trans atMost
  omega

theorem Database.ownerCount_deleteMembership (organizationId : String)
    {rowOrganization : String}
    (removed : db.apply (.deleteMembership rowOrganization userId) = some next) :
    next.ownerCount organizationId =
      if rowOrganization = organizationId then db.otherOwners organizationId userId
      else db.ownerCount organizationId := by
  cases removed
  split
  · next same =>
      rw [same]
      rfl
  · next different =>
      unfold ownerCount
      rw [List.countP_filter]
      apply List.countP_congr
      intro membership _
      simp only [Bool.and_eq_true, beq_iff_eq, Bool.not_eq_true']
      constructor
      · exact fun both => both.1
      · intro owner
        refine ⟨owner, ?_⟩
        have elsewhere : membership.organizationId ≠ rowOrganization := by
          rw [owner.1]
          exact Ne.symm different
        simp [elsewhere]

theorem Database.ownerCount_setRole (organizationId : String) {rowOrganization : String}
    (assigned : db.apply (.setRole rowOrganization userId role) = some next) :
    (rowOrganization ≠ organizationId → next.ownerCount organizationId =
      db.ownerCount organizationId) ∧
    (rowOrganization = organizationId → role ≠ .owner →
      next.ownerCount organizationId = db.otherOwners organizationId userId) ∧
    (role = .owner → db.ownerCount organizationId ≤ next.ownerCount organizationId) := by
  cases assigned
  refine ⟨?_, ?_, ?_⟩
  · intro different
    unfold ownerCount updateWhere
    rw [List.countP_map]
    apply List.countP_congr
    intro membership _
    simp only [Function.comp_apply]
    split
    · next here =>
        simp only [Bool.and_eq_true, beq_iff_eq] at here
        simp [here, different]
    · exact Iff.rfl
  · intro same otherRole
    unfold ownerCount otherOwners updateWhere
    rw [List.countP_map, List.countP_filter]
    apply List.countP_congr
    intro membership _
    simp only [Function.comp_apply, Membership.isAt, Membership.isOwnerIn, same]
    split
    · next here => simp [here, otherRole]
    · next elsewhere => simp [elsewhere]
  · intro ownerRole
    unfold ownerCount updateWhere
    rw [List.countP_map]
    apply List.countP_mono_left
    intro membership _ owner
    simp only [Function.comp_apply]
    split
    · simp only [Bool.and_eq_true, beq_iff_eq] at owner ⊢
      exact ⟨owner.1, ownerRole⟩
    · exact owner

end

/-! ## One statement -/

theorem MemberTransaction.next_cases {transaction : MemberTransaction} {db nextDb : Database}
    {phase : MemberPhase} (stepped : transaction.next db = some (nextDb, phase)) :
    (nextDb = db ∧ ∀ membership, transaction.phase = .committing membership →
      transaction.change = .assign membership.role ∨
        ∃ role, transaction.change = .assign role ∧
          db.membership? membership.organizationId membership.userId = none) ∨
    ∃ membership, transaction.phase = .committing membership ∧
      ((∃ role, transaction.change = .assign role ∧ membership.role ≠ role ∧
        db.apply (.setRole membership.organizationId membership.userId role) = some nextDb) ∨
      (transaction.change = .remove ∧
        db.apply (.deleteMembership membership.organizationId membership.userId) =
          some nextDb)) := by
  unfold next at stepped
  simp only [] at stepped
  split at stepped
  · next loading =>
      left
      simp only [loading, reduceCtorEq, false_implies, implies_true, and_true]
      split at stepped
      · cases stepped
        rfl
      · split at stepped <;> cases stepped <;> rfl
  · next counting =>
      left
      simp only [counting, reduceCtorEq, false_implies, implies_true, and_true]
      split at stepped <;> cases stepped <;> rfl
  · next membership committing =>
      have loaded : ∀ other, transaction.phase = .committing other → other = membership := by
        intro other phaseOther
        rw [committing] at phaseOther
        cases phaseOther
        rfl
      have flushed := flushMemberChange_flushed db transaction.change membership
      generalize flushMemberChange db transaction.change membership = writes at flushed stepped
      generalize transaction.change = change at flushed ⊢
      cases flushed with
      | same role same =>
          cases stepped
          refine .inl ⟨rfl, fun other phaseOther => .inl ?_⟩
          rw [loaded other phaseOther, same]
      | gone role differs missing =>
          cases stepped
          refine .inl ⟨rfl, fun other phaseOther => .inr ⟨role, rfl, ?_⟩⟩
          rw [loaded other phaseOther]
          exact missing
      | assigned role differs =>
          cases stepped
          exact .inr ⟨membership, committing, .inl ⟨role, rfl, differs, rfl⟩⟩
      | removed =>
          cases stepped
          exact .inr ⟨membership, committing, .inr ⟨rfl, rfl⟩⟩
  · cases stepped

def MemberTransaction.takesOwnerFrom (transaction : MemberTransaction) (db : Database)
    (organizationId : String) (membership : Membership) : Bool :=
  membership.organizationId == organizationId && transaction.change.takesOwner &&
    transaction.change != .assign membership.role &&
    db.isOwnerOf organizationId membership.userId

section

variable {transaction : MemberTransaction} {db nextDb : Database} {phase : MemberPhase}
variable {membership : Membership}

/-- The count of owners falls by one where the commit takes the role of an
owner, and it does not fall elsewhere. -/
def MemberTransaction.CountsOwners (transaction : MemberTransaction) (db nextDb : Database)
    (organizationId : String) : Prop :=
  (∃ membership, transaction.phase = .committing membership ∧
    transaction.takesOwnerFrom db organizationId membership = true ∧
    nextDb.ownerCount organizationId + 1 = db.ownerCount organizationId) ∨
  ((∀ membership, transaction.phase = .committing membership →
    transaction.takesOwnerFrom db organizationId membership = false) ∧
    db.ownerCount organizationId ≤ nextDb.ownerCount organizationId)

theorem MemberTransaction.not_takesOwnerFrom_of_idle {organizationId : String}
    (idle : transaction.change = .assign membership.role ∨
      ∃ role, transaction.change = .assign role ∧
        db.membership? membership.organizationId membership.userId = none) :
    transaction.takesOwnerFrom db organizationId membership = false := by
  rcases idle with same | ⟨role, assigned, gone⟩
  · simp [takesOwnerFrom, same]
  · by_cases here : membership.organizationId = organizationId
    · have nobody : db.isOwnerOf organizationId membership.userId = false := by
        simp only [Database.isOwnerOf, List.any_eq_false]
        intro stored member owner
        have absent := List.find?_eq_none.mp gone stored member
        simp only [Bool.and_eq_true] at owner
        exact absent (by simpa [here] using owner.1)
      simp [takesOwnerFrom, nobody]
    · simp [takesOwnerFrom, here]

theorem MemberTransaction.countsOwners_of_kept {organizationId : String}
    (committing : transaction.phase = .committing membership)
    (takesNone : transaction.takesOwnerFrom db organizationId membership = false)
    (kept : db.ownerCount organizationId ≤ nextDb.ownerCount organizationId) :
    transaction.CountsOwners db nextDb organizationId := by
  refine .inr ⟨?_, kept⟩
  intro other phaseOther
  rw [committing] at phaseOther
  cases phaseOther
  exact takesNone

theorem MemberTransaction.countsOwners_of_taken {organizationId : String}
    (keyed : db.MembershipsKeyed) (committing : transaction.phase = .committing membership)
    (here : membership.organizationId = organizationId)
    (takes : transaction.change.takesOwner = true)
    (emits : transaction.change ≠ .assign membership.role)
    (left : nextDb.ownerCount organizationId = db.otherOwners organizationId membership.userId) :
    transaction.CountsOwners db nextDb organizationId := by
  have counted := db.ownerCount_eq organizationId membership.userId
  cases owner : db.isOwnerOf organizationId membership.userId with
  | true =>
      refine .inl ⟨membership, committing, ?_, ?_⟩
      · simp [takesOwnerFrom, here, takes, emits, owner]
      · rw [counted, Database.ownerRows_eq_one keyed owner, left]
  | false =>
      refine countsOwners_of_kept committing ?_ ?_
      · simp [takesOwnerFrom, owner]
      · rw [counted, Database.ownerRows_eq_zero owner, left]
        omega

theorem MemberTransaction.ownerCount_next (organizationId : String)
    (keyed : db.MembershipsKeyed)
    (stepped : transaction.next db = some (nextDb, phase)) :
    transaction.CountsOwners db nextDb organizationId := by
  rcases next_cases stepped with ⟨unchanged, idle⟩ | ⟨membership, committing, effect⟩
  · right
    refine ⟨?_, by rw [unchanged]⟩
    intro membership committing
    exact not_takesOwnerFrom_of_idle (idle membership committing)
  · rcases effect with ⟨role, assigned, changed, applied⟩ | ⟨removed, applied⟩
    · rcases Database.ownerCount_setRole organizationId applied with
        ⟨elsewhere, demoted, promoted⟩
      by_cases here : membership.organizationId = organizationId
      · by_cases ownerRole : role = .owner
        · refine countsOwners_of_kept committing ?_ (promoted ownerRole)
          simp [takesOwnerFrom, assigned, MemberChange.takesOwner, ownerRole]
        · refine countsOwners_of_taken keyed committing here ?_ ?_ (demoted here ownerRole)
          · simpa [assigned, MemberChange.takesOwner] using ownerRole
          · rw [assigned]
            simpa using Ne.symm changed
      · refine countsOwners_of_kept committing ?_ (elsewhere here).ge
        simp [takesOwnerFrom, here]
    · have left := Database.ownerCount_deleteMembership organizationId applied
      by_cases here : membership.organizationId = organizationId
      · rw [if_pos here] at left
        exact countsOwners_of_taken keyed committing here
          (by simp [removed, MemberChange.takesOwner]) (by simp [removed]) left
      · rw [if_neg here] at left
        refine countsOwners_of_kept committing ?_ left.ge
        simp [takesOwnerFrom, here]

theorem MemberTransaction.keyed_next (keyed : db.MembershipsKeyed)
    (stepped : transaction.next db = some (nextDb, phase)) : nextDb.MembershipsKeyed := by
  rcases next_cases stepped with ⟨unchanged, -⟩ | ⟨membership, -, ⟨role, -, -, applied⟩ | ⟨-, applied⟩⟩
  · rwa [unchanged]
  · cases applied
    exact Keyed.update keyed fun _ _ => ⟨rfl, rfl⟩
  · cases applied
    exact Keyed.filter keyed _

end

/-! ## Runs -/

/-- Where a commit takes the role of an owner, the check for the last owner, made
again, still passes. -/
def LastOwnerRechecked (organizationId : String) (current : MemberSystem) (index : Nat)
    (_ : MemberSystem) : Prop :=
  ∀ transaction membership, current.transactions[index]? = some transaction →
    transaction.phase = .committing membership →
    transaction.takesOwnerFrom current.db organizationId membership = true →
    ensureNotLastOwner current.db organizationId = .ok ()

theorem ensureNotLastOwner_eq_ok_iff {db : Database} {organizationId : String} :
    ensureNotLastOwner db organizationId = .ok () ↔ 2 ≤ db.ownerCount organizationId := by
  unfold ensureNotLastOwner
  split
  · next few => simp; omega
  · next several => simp; omega

instance (organizationId : String) (current : MemberSystem) (index : Nat) (next : MemberSystem) :
    Decidable (LastOwnerRechecked organizationId current index next) :=
  match present : current.transactions[index]? with
  | none => isTrue fun _ _ found => by simp [present] at found
  | some transaction =>
      match committing : transaction.phase with
      | .committing membership =>
          decidable_of_iff
            (transaction.takesOwnerFrom current.db organizationId membership = true →
              2 ≤ current.db.ownerCount organizationId)
            ⟨fun several other otherMembership found phase takes => by
              cases present.symm.trans found
              cases committing.symm.trans phase
              exact ensureNotLastOwner_eq_ok_iff.mpr (several takes),
            fun rechecked takes => ensureNotLastOwner_eq_ok_iff.mp
              (rechecked transaction membership present committing takes)⟩
      | .loading => isTrue fun _ _ found phase => by
          cases present.symm.trans found
          cases committing.symm.trans phase
      | .counting _ => isTrue fun _ _ found phase => by
          cases present.symm.trans found
          cases committing.symm.trans phase
      | .answered _ => isTrue fun _ _ found phase => by
          cases present.symm.trans found
          cases committing.symm.trans phase

/-- A step keeps an owner exactly when the check still passes. -/
theorem MemberSystem.owner_kept_step_iff {organizationId : String} {current next : MemberSystem}
    {index : Nat} (keyed : current.db.MembershipsKeyed)
    (owned : 1 ≤ current.db.ownerCount organizationId) (stepped : current.step index = some next) :
    1 ≤ next.db.ownerCount organizationId ↔
      LastOwnerRechecked organizationId current index next := by
  rcases step_some stepped with ⟨transaction, phase, present, moved, -⟩
  rcases MemberTransaction.ownerCount_next organizationId keyed moved with
    ⟨membership, committing, takes, lowered⟩ | ⟨harmless, kept⟩
  · constructor
    · intro remains other otherMembership otherPresent otherCommitting otherTakes
      exact ensureNotLastOwner_eq_ok_iff.mpr (by omega)
    · intro rechecked
      have several := ensureNotLastOwner_eq_ok_iff.mp
        (rechecked transaction membership present committing takes)
      omega
  · constructor
    · intro _ other otherMembership otherPresent otherCommitting otherTakes
      rw [present] at otherPresent
      cases otherPresent
      rw [harmless otherMembership otherCommitting] at otherTakes
      cases otherTakes
    · intro _
      omega

/-- In every run of role changes and removals, an organization that has an owner
keeps one in every state, exactly when each commit that takes the role of an
owner still passes the check for the last owner. -/
theorem owner_kept_iff (organizationId : String) (initial : Database)
    (keyed : initial.MembershipsKeyed) (owned : 1 ≤ initial.ownerCount organizationId)
    (requests : List MemberTransaction) (actions : List Nat) :
    Along MemberSystem.step (fun _ _ next => 1 ≤ next.db.ownerCount organizationId)
      (.start initial requests) actions ↔
    Along MemberSystem.step (LastOwnerRechecked organizationId)
      (.start initial requests) actions := by
  refine along_iff_of_invariant
    (fun system => system.db.MembershipsKeyed ∧ 1 ≤ system.db.ownerCount organizationId)
    ?_ ?_ ⟨keyed, owned⟩ actions
  · intro current index next invariant stepped remains
    rcases MemberSystem.step_some stepped with ⟨transaction, phase, -, moved, -⟩
    exact ⟨MemberTransaction.keyed_next invariant.1 moved, remains⟩
  · intro current index next invariant stepped
    exact MemberSystem.owner_kept_step_iff invariant.1 invariant.2 stepped

namespace Scenario

def ownerMembership (userId : String) : Membership where
  organizationId := "org"
  userId := userId
  role := .owner
  createdAt := 0

def twoOwners : Database where
  memberships := [ownerMembership "alice", ownerMembership "bob"]

def ownerPrincipal (userId : String) : Principal where
  userId := some userId
  organizationId := "org"
  role := .owner
  authenticationType := .session

def mutualRequests : List MemberTransaction :=
  [{ principal := ownerPrincipal "alice", userId := "bob", change := .assign .viewer },
    { principal := ownerPrincipal "bob", userId := "alice", change := .remove }]

end Scenario

theorem owner_kept_iff_scenario :
    Along MemberSystem.step (fun _ _ next => 1 ≤ next.db.ownerCount "org")
      (.start Scenario.twoOwners Scenario.mutualRequests) [0, 0, 0, 1, 1] := by
  refine (owner_kept_iff "org" Scenario.twoOwners ?_ (by decide +kernel)
    Scenario.mutualRequests [0, 0, 0, 1, 1]).mpr ?_
  · exact List.pairwise_pair.mpr (by decide +kernel)
  · decide +kernel

/-- Both count two owners before either commits. -/
theorem both_owners_lost :
    ¬∀ actions final,
      run MemberSystem.step (.start Scenario.twoOwners Scenario.mutualRequests) actions =
        some final → 1 ≤ final.db.ownerCount "org" := by
  intro kept
  have lost : ∃ final,
      run MemberSystem.step (.start Scenario.twoOwners Scenario.mutualRequests)
        [0, 1, 0, 1, 0, 1] = some final ∧ final.db.ownerCount "org" = 0 := by
    refine ⟨_, rfl, ?_⟩
    decide +kernel
  rcases lost with ⟨final, ran, nobody⟩
  have remains := kept _ final ran
  omega

end EvalForge
