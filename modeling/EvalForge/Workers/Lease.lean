import EvalForge.Workers.Evidence

/-! # Lease mutual exclusion

When every delivery ends before its lease expires, the guarded claim keeps
executing deliveries apart unless they share a task id.
-/

namespace EvalForge

open Foundation

/-- The delivery has claimed the item and is still executing it. -/
def Attempt.holdsLease (attempt : Attempt) : Bool :=
  attempt.phase.active && attempt.lease.isSome

namespace ItemSystem

/-- No executing delivery has outlived the lease it obtained. -/
def leasesLive (system : ItemSystem) : Bool :=
  system.deliveries.all fun attempt =>
    !attempt.phase.active ||
      match attempt.lease with
      | none => true
      | some lease => decide (system.now ≤ lease)

def AtMostOneHolder (system : ItemSystem) : Prop :=
  ∀ (left right : Nat) (leftAttempt rightAttempt : Attempt),
    system.deliveries[left]? = some leftAttempt →
    system.deliveries[right]? = some rightAttempt →
    leftAttempt.holdsLease = true → rightAttempt.holdsLease = true → left = right

/-- A claim that succeeds meets no other unfinished delivery with an unexpired
lease. -/
def ClaimExclusive (system : ItemSystem) : ItemAction → Prop
  | .attempt index .claim =>
      ∀ attempt row, system.deliveries[index]? = some attempt →
        claimRunItem system.now attempt.taskId (attempt.retries + 1) system.item.row = some row →
        ∀ (other : Nat) (holder : Attempt) (lease : Nat), other ≠ index →
          system.deliveries[other]? = some holder → holder.phase.active = true →
          holder.lease = some lease → ¬system.now ≤ lease
  | _ => True

/-- A delivery claims the running item while another delivery that carries the
same task id is executing it. -/
def twinClaims (system : ItemSystem) : ItemAction → Prop
  | .attempt index .claim =>
      system.item.row.status = .running ∧
        ∃ (attempt : Attempt) (other : Nat) (holder : Attempt), other ≠ index ∧
          system.deliveries[index]? = some attempt ∧
          system.deliveries[other]? = some holder ∧
          holder.holdsLease = true ∧ holder.taskId = attempt.taskId
  | _ => False

end ItemSystem

/-- The one holder is the owner that the item's row names, unless the item is
terminal, and its lease has not expired. -/
structure LeaseInvariant (system : ItemSystem) : Prop where
  owner : ∀ (index : Nat) (attempt : Attempt) (lease : Nat),
    system.deliveries[index]? = some attempt →
    attempt.phase.active = true → attempt.lease = some lease →
    system.item.row.status.terminal = true ∨
      (system.item.row.status = .running ∧
        system.item.row.workerTaskId = some attempt.taskId ∧
        system.item.row.leaseExpiresAt = some lease)
  unique : system.AtMostOneHolder
  live : system.leasesLive = true

section Steps

variable {env : Environment} {task : CaseTask} {now : Nat} {item : ItemRecord}
variable {attempt : Attempt} {attemptAction : AttemptAction} {result : AttemptResult}
variable {current next : ItemSystem} {action : ItemAction}

/-- A step other than a successful claim keeps the owner in the row or makes
the item terminal, and lets no delivery obtain a lease. -/
theorem AttemptTransition.keeps_lease
    (transition : AttemptTransition env task now item attempt attemptAction result)
    (noClaim : attemptAction = .claim →
      claimRunItem now attempt.taskId (attempt.retries + 1) item.row = none) :
    (result.item.row = item.row ∨ result.item.row.status.terminal = true) ∧
      result.attempt.lease = attempt.lease ∧ result.attempt.taskId = attempt.taskId ∧
      attempt.phase.active = true := by
  cases transition with
  | claim row phase claims =>
      rw [noClaim rfl] at claims
      cases claims
  | commit inputs output results completedAt integrityError committed phase stored =>
      have terminal : committed.row.status.terminal = true := by
        rw [(commitSuccess_some stored).2.completed]
        rfl
      exact ⟨.inr terminal, rfl, rfl, by simp [phase, Phase.active]⟩
  | record exc loaded completedAt phase => exact ⟨.inr rfl, rfl, rfl, by simp [phase, Phase.active]⟩
  | interrupt exc inTry =>
      refine ⟨.inl rfl, rfl, rfl, ?_⟩
      cases phase : attempt.phase <;> simp_all [Phase.inTry, Phase.active]
  | crash active => exact ⟨.inl rfl, rfl, rfl, active⟩
  | _ => exact ⟨.inl rfl, rfl, rfl, by simp [*, Phase.active]⟩

theorem ItemSystem.live_of_active (live : current.leasesLive = true) {index lease : Nat}
    (delivered : current.deliveries[index]? = some attempt)
    (active : attempt.phase.active = true) (held : attempt.lease = some lease) :
    current.now ≤ lease := by
  have checked := List.all_eq_true.mp live attempt (List.mem_of_getElem? delivered)
  simpa [active, held] using checked

theorem holdsLease_iff :
    attempt.holdsLease = true ↔ attempt.phase.active = true ∧ ∃ lease, attempt.lease = some lease := by
  simp [Attempt.holdsLease, Option.isSome_iff_exists]

theorem LeaseInvariant.claimExclusive (invariant : LeaseInvariant current)
    (noTwin : ¬current.twinClaims action) : current.ClaimExclusive action := by
  unfold ItemSystem.ClaimExclusive
  split
  · next index =>
    intro attempt row delivered claims other holder lease different held active obtained unexpired
    have able := (claimRunItem_some claims).1
    rcases invariant.owner other holder lease held active obtained with
      terminal | ⟨running, owner, expiry⟩
    · rw [claimable_not_terminal able] at terminal
      cases terminal
    · have sameTask : holder.taskId = attempt.taskId := by
        simpa [claimable, running, owner, expiry, Nat.not_lt.mpr unexpired] using able
      exact noTwin ⟨running, attempt, other, holder, different, delivered, held,
        holdsLease_iff.mpr ⟨active, lease, obtained⟩, sameTask⟩
  · trivial

theorem LeaseInvariant.not_twinClaims (invariant : LeaseInvariant current)
    (exclusive : current.ClaimExclusive action) : ¬current.twinClaims action := by
  intro twin
  unfold ItemSystem.twinClaims at twin
  split at twin
  · next index =>
    rcases twin with ⟨running, attempt, other, holder, different, delivered, held, holds, sameTask⟩
    rcases holdsLease_iff.mp holds with ⟨active, lease, obtained⟩
    have unexpired := ItemSystem.live_of_active invariant.live held active obtained
    rcases invariant.owner other holder lease held active obtained with
      terminal | ⟨_, owner, _⟩
    · simp [running] at terminal
    · have able : claimable current.now attempt.taskId current.item.row = true := by
        simp [claimable, running, owner, sameTask]
      exact exclusive attempt _ delivered (by rw [claimRunItem, if_pos able]) other holder lease
        different held active obtained unexpired
  · exact twin

theorem LeaseInvariant.dispatched (task : CaseTask) (runId taskId : String) (now : Nat) :
    LeaseInvariant (.dispatched task runId taskId now) := by
  refine ⟨?_, ?_, rfl⟩
  · intro index attempt lease delivered
    simp [ItemSystem.dispatched, ItemSystem.publish, ItemSystem.created] at delivered
  · intro left right leftAttempt rightAttempt delivered
    simp [ItemSystem.dispatched, ItemSystem.publish, ItemSystem.created] at delivered

theorem LeaseInvariant.holder_of_claim (invariant : LeaseInvariant current)
    {index other : Nat} {holder : Attempt} {row : EvalRunItem}
    (exclusive : current.ClaimExclusive (.attempt index .claim))
    (delivered : current.deliveries[index]? = some attempt)
    (claims : claimRunItem current.now attempt.taskId (attempt.retries + 1)
      current.item.row = some row)
    (held : current.deliveries[other]? = some holder) (holds : holder.holdsLease = true) :
    other = index := by
  by_contra different
  rcases holdsLease_iff.mp holds with ⟨active, lease, obtained⟩
  exact exclusive attempt row delivered claims other holder lease different held active obtained
    (ItemSystem.live_of_active invariant.live held active obtained)

theorem LeaseInvariant.afterClaim (invariant : LeaseInvariant current) {index : Nat}
    {row : EvalRunItem} (exclusive : current.ClaimExclusive (.attempt index .claim))
    (delivered : current.deliveries[index]? = some attempt)
    (claims : claimRunItem current.now attempt.taskId (attempt.retries + 1)
      current.item.row = some row)
    (claimed : result = {
      item := { current.item with row }
      attempt := { attempt with phase := .claimed, lease := some (current.now + taskLease) } })
    (live : (current.afterAttempt index attempt result).leasesLive = true) :
    LeaseInvariant (current.afterAttempt index attempt result) := by
  have only : ∀ (other : Nat) (holder : Attempt),
      (current.afterAttempt index attempt result).deliveries[other]? = some holder →
      holder.holdsLease = true → other = index := by
    intro other holder held holds
    rw [afterAttempt_getElem? delivered] at held
    split at held
    · assumption
    · exact invariant.holder_of_claim exclusive delivered claims held holds
  refine ⟨?_, ?_, live⟩
  · intro other holder lease held active obtained
    have same := only other holder held (holdsLease_iff.mpr ⟨active, lease, obtained⟩)
    rw [afterAttempt_getElem? delivered, if_pos same, claimed] at held
    cases held
    cases obtained
    rw [claimed]
    rcases claimRunItem_some claims with ⟨_, rfl⟩
    exact .inr ⟨rfl, rfl, rfl⟩
  · intro left right leftAttempt rightAttempt leftHeld rightHeld leftHolds rightHolds
    exact (only left leftAttempt leftHeld leftHolds).trans
      (only right rightAttempt rightHeld rightHolds).symm

theorem LeaseInvariant.afterOther (invariant : LeaseInvariant current) {index : Nat}
    (delivered : current.deliveries[index]? = some attempt)
    (transition : AttemptTransition env task current.now current.item attempt attemptAction result)
    (noClaim : attemptAction = .claim →
      claimRunItem current.now attempt.taskId (attempt.retries + 1) current.item.row = none)
    (live : (current.afterAttempt index attempt result).leasesLive = true) :
    LeaseInvariant (current.afterAttempt index attempt result) := by
  rcases transition.keeps_lease noClaim with ⟨row, sameLease, sameTask, wasActive⟩
  -- Every holder after the step was one before it, under the same task and lease.
  have earlier : ∀ (other : Nat) (holder : Attempt),
      (current.afterAttempt index attempt result).deliveries[other]? = some holder →
      holder.phase.active = true →
      ∃ before, current.deliveries[other]? = some before ∧ before.phase.active = true ∧
        holder.lease = before.lease ∧ holder.taskId = before.taskId := by
    intro other holder held active
    rw [afterAttempt_getElem? delivered] at held
    split at held
    · next same =>
      cases held
      exact ⟨attempt, same ▸ delivered, wasActive, sameLease, sameTask⟩
    · exact ⟨holder, held, active, rfl, rfl⟩
  refine ⟨?_, ?_, live⟩
  · intro other holder lease held active obtained
    rcases row with same | terminal
    · rcases earlier other holder held active with ⟨before, beforeHeld, beforeActive, leases, tasks⟩
      have owner := invariant.owner other before lease beforeHeld beforeActive
        (leases.symm.trans obtained)
      rw [ItemSystem.afterAttempt, same, tasks]
      exact owner
    · exact .inl terminal
  · intro left right leftAttempt rightAttempt leftHeld rightHeld leftHolds rightHolds
    rcases holdsLease_iff.mp leftHolds with ⟨leftActive, leftLease, leftObtained⟩
    rcases holdsLease_iff.mp rightHolds with ⟨rightActive, rightLease, rightObtained⟩
    rcases earlier left leftAttempt leftHeld leftActive with
      ⟨leftBefore, leftWas, leftBeforeActive, leftSame, _⟩
    rcases earlier right rightAttempt rightHeld rightActive with
      ⟨rightBefore, rightWas, rightBeforeActive, rightSame, _⟩
    exact invariant.unique left right leftBefore rightBefore leftWas rightWas
      (holdsLease_iff.mpr ⟨leftBeforeActive, leftLease, leftSame.symm.trans leftObtained⟩)
      (holdsLease_iff.mpr ⟨rightBeforeActive, rightLease, rightSame.symm.trans rightObtained⟩)

theorem LeaseInvariant.afterDelivery (invariant : LeaseInvariant current) (message : Message)
    (live : (current.afterDelivery message).leasesLive = true) :
    LeaseInvariant (current.afterDelivery message) := by
  have old : ∀ (index : Nat) (attempt : Attempt) (lease : Nat),
      (current.afterDelivery message).deliveries[index]? = some attempt →
      attempt.lease = some lease → current.deliveries[index]? = some attempt := by
    intro index attempt lease delivered obtained
    rw [ItemSystem.afterDelivery, List.getElem?_append] at delivered
    split at delivered
    · exact delivered
    · cases List.mem_singleton.mp (List.mem_of_getElem? delivered)
      cases obtained
  refine ⟨?_, ?_, live⟩
  · intro index attempt lease delivered active obtained
    exact invariant.owner index attempt lease (old index attempt lease delivered obtained)
      active obtained
  · intro left right leftAttempt rightAttempt leftHeld rightHeld leftHolds rightHolds
    rcases holdsLease_iff.mp leftHolds with ⟨_, leftLease, leftObtained⟩
    rcases holdsLease_iff.mp rightHolds with ⟨_, rightLease, rightObtained⟩
    exact invariant.unique left right leftAttempt rightAttempt
      (old left leftAttempt leftLease leftHeld leftObtained)
      (old right rightAttempt rightLease rightHeld rightObtained) leftHolds rightHolds

theorem LeaseInvariant.step (invariant : LeaseInvariant current)
    (stepped : itemStep env task current action = some next)
    (exclusive : current.ClaimExclusive action) (live : next.leasesLive = true) :
    LeaseInvariant next := by
  cases itemStep_transition stepped with
  | tick elapsed => exact ⟨invariant.owner, invariant.unique, live⟩
  | deliver index message _ => exact invariant.afterDelivery message live
  | attempt index attemptAction attempt result delivered transition =>
      by_cases isClaim : attemptAction = .claim
      · subst isClaim
        have original := transition
        cases transition with
        | claim row phase claims =>
            exact invariant.afterClaim exclusive delivered claims rfl live
        | lose phase refused =>
            exact invariant.afterOther delivered original (fun _ => refused) live
      · exact invariant.afterOther delivered transition (fun same => absurd same isClaim) live

end Steps

/-! ## Mutual exclusion -/

/-- A claim returns true only when no other delivery holds an unexpired lease,
and never are two deliveries executing the item they claimed. -/
def LeaseExclusive (current : ItemSystem) (action : ItemAction) (next : ItemSystem) : Prop :=
  current.ClaimExclusive action ∧ next.AtMostOneHolder

/-- When every delivery ends before its lease expires, the lease excludes other
deliveries in exactly the runs in which no delivery claims the running item
while another one executes it under the same task id. -/
theorem lease_exclusive_iff (env : Environment) (task : CaseTask) (runId taskId : String)
    (now : Nat) (actions : List ItemAction)
    (prompt : Along (itemStep env task) (fun _ _ next => next.leasesLive = true)
      (.dispatched task runId taskId now) actions) :
    Along (itemStep env task) LeaseExclusive (.dispatched task runId taskId now) actions ↔
      Along (itemStep env task) (fun current action _ => ¬current.twinClaims action)
        (.dispatched task runId taskId now) actions := by
  symm
  apply along_iff_of_background LeaseInvariant ?_ ?_
    (LeaseInvariant.dispatched task runId taskId now) prompt
  · intro current action next invariant stepped live noTwin
    exact invariant.step stepped (invariant.claimExclusive noTwin) live
  · intro current action next invariant stepped live
    constructor
    · intro noTwin
      have exclusive := invariant.claimExclusive noTwin
      exact ⟨exclusive, (invariant.step stepped exclusive live).unique⟩
    · intro exclusive
      exact invariant.not_twinClaims exclusive.1

namespace Scenario

/-- The broker hands the message out again while its first delivery is at the
adapter. -/
def redelivered : List ItemAction :=
  untilReady 0 0 ++ [.deliver 0, .attempt 1 .readStatus]

/-- The first delivery completes the item before the second one can claim it. -/
def completedFirst : List ItemAction :=
  redelivered ++ [.attempt 0 (.callAdapter (.ok output)), .tick 5,
    .attempt 0 (.commitSuccess ⟨""⟩), .attempt 1 .claim]

example : (execute completedFirst).map (fun system =>
    (system.item.row.status, system.deliveries.length)) = some (.completed, 2) := by
  decide +kernel

theorem completedFirst_notTwin :
    Along (itemStep environment task) (fun current action _ => ¬current.twinClaims action)
      (.dispatched task "run-1" "task-1" 0) completedFirst := by
  have claimsIdle : Along (itemStep environment task) (fun current action _ =>
      (match action with
        | .attempt _ .claim => decide (current.item.row.status ≠ .running)
        | _ => true) = true) (.dispatched task "run-1" "task-1" 0) completedFirst := by
    decide +kernel
  refine Along.of_invariant (fun _ => True) ?_ trivial claimsIdle
  intro current action next _ _ idle
  refine ⟨trivial, ?_⟩
  rcases action with _ | _ | ⟨index, _ | _⟩
  case attempt.claim => exact fun twin => absurd twin.1 (of_decide_eq_true idle)
  all_goals exact id

end Scenario

theorem lease_exclusive_iff_scenario :
    Along (itemStep Scenario.environment Scenario.task) LeaseExclusive
      (.dispatched Scenario.task "run-1" "task-1" 0) Scenario.completedFirst :=
  (lease_exclusive_iff Scenario.environment Scenario.task "run-1" "task-1" 0
    Scenario.completedFirst (by decide +kernel)).mpr Scenario.completedFirst_notTwin

/-- The redelivery then claims the item too. -/
theorem lease_claimed_twice :
    ¬∀ (env : Environment) (task : CaseTask) (runId taskId : String) (now : Nat)
      (actions : List ItemAction),
      Along (itemStep env task) (fun _ _ next => next.leasesLive = true)
        (.dispatched task runId taskId now) actions →
      Along (itemStep env task) LeaseExclusive (.dispatched task runId taskId now) actions := by
  intro exclusive
  have along := exclusive Scenario.environment Scenario.task "run-1" "task-1" 0
    (Scenario.redelivered ++ [.attempt 1 .claim]) (by decide +kernel)
  have after : (Scenario.execute (Scenario.redelivered ++ [.attempt 1 .claim])).map
      (fun system => (system.deliveries[0]?.map Attempt.holdsLease,
        system.deliveries[1]?.map Attempt.holdsLease)) = some (some true, some true) := by rfl
  rcases Option.map_eq_some_iff.mp after with ⟨next, reached, holders⟩
  rcases Option.map_eq_some_iff.mp (congrArg Prod.fst holders) with ⟨first, firstHeld, holds⟩
  rcases Option.map_eq_some_iff.mp (congrArg Prod.snd holders) with ⟨second, secondHeld, too⟩
  rcases along.last reached with ⟨_, _, _, atMostOne⟩
  have same := atMostOne 0 1 first second firstHeld secondHeld holds too
  cases same

end EvalForge
