import EvalForge.Workers.Finality

/-! # One chain of deliveries

The intended use of the broker: the deliveries of an item follow each other,
each next one a retry or the redelivery after a crash. Then the unguarded
writes meet no other delivery's item, and a chain that ends leaves a terminal
item behind.
-/

namespace EvalForge

open Foundation

namespace Phase

def resumes : Phase → Bool
  | retried _ | crashed => true
  | _ => false

/-- What the phase of the current delivery says about the item. -/
def Agrees (status : ItemStatus) : Phase → Prop
  | statusRead | failing .. => status.terminal = false
  | claimed | staleData _ | ready _ | evaluated .. => status = .running
  | recorded _ | returned _ => status.terminal = true
  | _ => True

theorem resumes_of_active {phase : Phase} (active : phase.active = true) :
    phase.resumes = false := by
  cases phase with
  | returned | retried | crashed => cases active
  | _ => rfl

theorem agrees_of_resumes {phase : Phase} (resumes : phase.resumes = true)
    (status : ItemStatus) : phase.Agrees status := by
  cases phase with
  | retried | crashed => trivial
  | _ => cases resumes

end Phase

/-- The broker hands out the last message of the chain, when no delivery was
started yet or the last one is to be resumed. -/
def ItemSystem.chained (system : ItemSystem) : ItemAction → Bool
  | .deliver index =>
      index + 1 == system.messages.length &&
        system.deliveries.getLast?.all fun attempt => attempt.phase.resumes
  | _ => true

structure ChainInvariant (env : Environment) (task : CaseTask) (taskId : String)
    (system : ItemSystem) : Prop where
  evidence : SystemEvidence env task system
  messages : ∀ message ∈ system.messages, message.taskId = taskId
  deliveries : ∀ attempt ∈ system.deliveries, attempt.taskId = taskId
  last : ∀ (index : Nat) (attempt : Attempt), system.deliveries[index]? = some attempt →
    attempt.phase.resumes = false → index + 1 = system.deliveries.length
  owned : system.item.row.status = .running → system.item.row.workerTaskId = some taskId
  phases : ∀ attempt ∈ system.deliveries, attempt.phase.Agrees system.item.row.status

section Steps

variable {env : Environment} {task : CaseTask} {taskId : String} {now : Nat}
variable {item : ItemRecord} {attempt : Attempt} {attemptAction : AttemptAction}
variable {result : AttemptResult} {current next : ItemSystem} {action : ItemAction}
variable {message : Message}

theorem AttemptTransition.active
    (transition : AttemptTransition env task now item attempt attemptAction result) :
    attempt.phase.active = true := by
  cases transition with
  | interrupt exc inTry =>
      cases phase : attempt.phase <;> simp_all [Phase.inTry, Phase.active]
  | crash active => exact active
  | _ => simp [*, Phase.active]

theorem AttemptTransition.sameTask
    (transition : AttemptTransition env task now item attempt attemptAction result) :
    result.attempt.taskId = attempt.taskId := by
  cases transition <;> rfl

theorem AttemptTransition.owned
    (transition : AttemptTransition env task now item attempt attemptAction result)
    (own : attempt.taskId = taskId)
    (owned : item.row.status = .running → item.row.workerTaskId = some taskId) :
    result.item.row.status = .running → result.item.row.workerTaskId = some taskId := by
  cases transition with
  | claim row phase claims =>
      intro _
      rcases claimRunItem_some claims with ⟨_, rfl⟩
      simp [own]
  | commit inputs output results completedAt integrityError committed phase stored =>
      intro running
      cases running.symm.trans (commitSuccess_some stored).2.completed
  | record exc loaded completedAt phase =>
      intro running
      cases running
  | _ => exact owned

theorem claimable_of_owned {row : EvalRunItem}
    (known : row.status ≠ .timedOut ∧ row.status ≠ .cancelled)
    (live : row.status.terminal = false)
    (owned : row.status = .running → row.workerTaskId = some taskId) :
    claimable now taskId row = true := by
  cases status : row.status with
  | queued => simp [claimable, status]
  | running => simp [claimable, status, owned status]
  | completed | errored => simp [status] at live
  | timedOut => exact absurd status known.1
  | cancelled => exact absurd status known.2

theorem AttemptTransition.agrees
    (transition : AttemptTransition env task now item attempt attemptAction result)
    (own : attempt.taskId = taskId)
    (owned : item.row.status = .running → item.row.workerTaskId = some taskId)
    (known : item.row.status ≠ .timedOut ∧ item.row.status ≠ .cancelled)
    (agrees : attempt.phase.Agrees item.row.status) :
    result.attempt.phase.Agrees result.item.row.status := by
  cases transition with
  | skip phase terminal => exact terminal
  | read phase live => exact live
  | claim row phase claims =>
      rcases claimRunItem_some claims with ⟨_, rfl⟩
      rfl
  | lose phase refused =>
      rw [phase] at agrees
      have able : claimable now taskId item.row = true := claimable_of_owned known agrees owned
      rw [claimRunItem, own, if_pos able] at refused
      cases refused
  | settled exc phase final terminal => exact terminal
  | fail exc phase final live => exact live
  | commit inputs output results completedAt integrityError committed phase stored =>
      have status : (committed.row.status).terminal = true := by
        rw [(commitSuccess_some stored).2.completed]
        rfl
      exact status
  | record exc loaded completedAt phase => rfl
  | loadStale inputs phase loaded =>
      rw [phase] at agrees
      exact agrees
  | load inputs phase loaded =>
      rw [phase] at agrees
      exact agrees
  | clear inputs phase =>
      rw [phase] at agrees
      exact agrees
  | evaluate inputs output results phase evaluated =>
      rw [phase] at agrees
      exact agrees
  | finish taskResult phase =>
      rw [phase] at agrees
      exact agrees
  | _ => trivial

theorem ChainInvariant.unique (invariant : ChainInvariant env task taskId current)
    {left right : Nat} {leftAttempt rightAttempt : Attempt}
    (leftHeld : current.deliveries[left]? = some leftAttempt)
    (rightHeld : current.deliveries[right]? = some rightAttempt)
    (leftLast : leftAttempt.phase.resumes = false)
    (rightLast : rightAttempt.phase.resumes = false) : left = right := by
  have leftEnd := invariant.last left leftAttempt leftHeld leftLast
  have rightEnd := invariant.last right rightAttempt rightHeld rightLast
  omega

theorem ChainInvariant.not_erasesCompleted (invariant : ChainInvariant env task taskId current)
    (stepped : itemStep env task current action = some next) :
    ¬current.erasesCompleted action := by
  intro erases
  cases itemStep_transition stepped with
  | tick => exact erases
  | deliver => exact erases
  | attempt index attemptAction attempt result delivered transition =>
      rcases erases with ⟨erases, completed⟩
      have agrees := invariant.phases attempt (List.mem_of_getElem? delivered)
      cases transition with
      | clear inputs phase =>
          rw [phase, completed] at agrees
          cases agrees
      | record exc loaded completedAt phase =>
          rw [phase, completed] at agrees
          cases agrees
      | _ => cases erases

theorem ChainInvariant.created (env : Environment) (task : CaseTask) (runId taskId : String)
    (now : Nat) : ChainInvariant env task taskId (.created task runId now) where
  evidence := SystemEvidence.created env task runId now
  messages := by simp [ItemSystem.created]
  deliveries := by simp [ItemSystem.created]
  last := by simp [ItemSystem.created]
  owned := by simp [ItemSystem.created]
  phases := by simp [ItemSystem.created]

theorem ChainInvariant.publish (invariant : ChainInvariant env task taskId current) :
    ChainInvariant env task taskId (current.publish taskId) where
  evidence := invariant.evidence.publish taskId
  messages := by
    intro message member
    rcases List.mem_append.mp member with member | member
    · exact invariant.messages message member
    · cases List.mem_singleton.mp member
      rfl
  deliveries := invariant.deliveries
  last := invariant.last
  owned := invariant.owned
  phases := invariant.phases

theorem ChainInvariant.afterDelivery (invariant : ChainInvariant env task taskId current)
    (evidence : SystemEvidence env task (current.afterDelivery message))
    {index : Nat} (published : current.messages[index]? = some message)
    (chained : current.chained (.deliver index) = true) :
    ChainInvariant env task taskId (current.afterDelivery message) where
  evidence := evidence
  messages := invariant.messages
  deliveries := by
    intro attempt member
    rcases List.mem_append.mp member with member | member
    · exact invariant.deliveries attempt member
    · cases List.mem_singleton.mp member
      exact invariant.messages message (List.mem_of_getElem? published)
  last := by
    intro other attempt held lasts
    -- A delivery that was the last one would have to be resumed.
    rw [ItemSystem.afterDelivery, List.getElem?_append] at held
    simp only [ItemSystem.afterDelivery, List.length_append, List.length_singleton]
    split at held
    · next bound =>
      have wasLast := invariant.last other attempt held lasts
      have getLast : current.deliveries.getLast? = some attempt := by
        rw [List.getLast?_eq_getElem?, ← wasLast]
        exact held
      simp [ItemSystem.chained, getLast, lasts] at chained
    · next bound =>
      have inside := (List.getElem?_eq_some_iff.mp held).1
      simp only [List.length_singleton] at inside
      omega
  owned := invariant.owned
  phases := by
    intro attempt member
    rcases List.mem_append.mp member with member | member
    · exact invariant.phases attempt member
    · cases List.mem_singleton.mp member
      trivial

theorem ChainInvariant.afterAttempt (invariant : ChainInvariant env task taskId current)
    {index : Nat} (delivered : current.deliveries[index]? = some attempt)
    (transition : AttemptTransition env task current.now current.item attempt attemptAction result)
    (evidence : SystemEvidence env task (current.afterAttempt index attempt result)) :
    ChainInvariant env task taskId (current.afterAttempt index attempt result) := by
  have member := List.mem_of_getElem? delivered
  have own := invariant.deliveries attempt member
  have lasts := Phase.resumes_of_active transition.active
  have wasLast := invariant.last index attempt delivered lasts
  constructor
  · exact evidence
  · intro message member
    rcases List.mem_append.mp member with member | member
    · exact invariant.messages message member
    · rcases List.mem_map.mp member with ⟨retries, _, rfl⟩
      exact own
  · intro other member
    rcases mem_afterAttempt member with member | rfl
    · exact invariant.deliveries other member
    · exact transition.sameTask.trans own
  · intro other otherAttempt held otherLasts
    have length : (current.afterAttempt index attempt result).deliveries.length =
        current.deliveries.length := by simp [ItemSystem.afterAttempt]
    rw [length]
    rw [afterAttempt_getElem? delivered] at held
    split at held
    · next same => omega
    · exact invariant.last other otherAttempt held otherLasts
  · exact transition.owned own invariant.owned
  · intro other member
    rcases List.mem_iff_getElem?.mp member with ⟨position, held⟩
    rw [afterAttempt_getElem? delivered] at held
    split at held
    · cases held
      exact transition.agrees own invariant.owned invariant.evidence.evidence.known
        (invariant.phases attempt (List.mem_of_getElem? delivered))
    · next different =>
      apply Phase.agrees_of_resumes
      by_contra notResumed
      exact different (invariant.unique held delivered (by simpa using notResumed) lasts)

theorem ChainInvariant.step (invariant : ChainInvariant env task taskId current)
    (stepped : itemStep env task current action = some next)
    (chained : current.chained action = true) : ChainInvariant env task taskId next := by
  have evidence := invariant.evidence.step stepped (invariant.not_erasesCompleted stepped)
  cases itemStep_transition stepped with
  | tick elapsed =>
      exact { invariant with evidence }
  | deliver index message published =>
      exact invariant.afterDelivery evidence published chained
  | attempt index attemptAction attempt result delivered transition =>
      exact invariant.afterAttempt delivered transition evidence

end Steps

end EvalForge
