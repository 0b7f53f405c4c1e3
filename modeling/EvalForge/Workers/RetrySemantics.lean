import EvalForge.Workers.Deliveries
import EvalForge.Workers.Retries

/-! # What the attempts on an item lead to

Whether a failed attempt is repeated is read from the text of its exception.
Where the first two attempts are read right, an item is tried at most three
times, until the first outcome that is no connection failure.
-/

namespace EvalForge

open Foundation

section Attempts

variable {env : Environment} {repr : String → String} {task : CaseTask} {taskId : String}

namespace RetryState

def handle (env : Environment) (taskId : String) (state : RetryState)
    (endings : List (AttemptEnd env repr task)) : RetryState :=
  state.attemptAll env taskId (endings.map (·.encounter))

theorem handle_cons (state : RetryState) (ending : AttemptEnd env repr task)
    (endings : List (AttemptEnd env repr task)) :
    state.handle env taskId (ending :: endings) =
      (state.attempt env taskId ending.encounter).handle env taskId endings := rfl

theorem handle_append (state : RetryState) (endings others : List (AttemptEnd env repr task)) :
    state.handle env taskId (endings ++ others) =
      (state.handle env taskId endings).handle env taskId others := by
  simp [handle, attemptAll]

theorem start_waiting (task : CaseTask) (taskId : String) (run : EvalRun) :
    (start task run).Waiting taskId 0 :=
  ⟨rfl, rfl, Nat.zero_le _, rfl, rfl, .inl rfl⟩

theorem Ended.handle {state : RetryState} {status : ItemStatus} {attempts : Nat}
    (ended : state.Ended status attempts) (endings : List (AttemptEnd env repr task)) :
    state.handle env taskId endings = state :=
  ended.attemptAll _

end RetryState

/-! ## The meaning of retries -/

section Meaning

variable (env taskId) (run : EvalRun) (endings : List (AttemptEnd env repr task))

def AttemptMade (state : RetryState) (ending : AttemptEnd env repr task) : Prop :=
  ∃ before after, endings = before ++ ending :: after ∧
    state = (RetryState.start task run).handle env taskId before ∧ state.pending ≠ none

structure RetrySemantics : Prop where
  retried : ∀ state ending, AttemptMade env taskId run endings state ending →
    ending.outcome.connectionFails = true → state.attempts < maxRetries →
    (state.attempt env taskId ending.encounter).item.row.status.terminal = false ∧
      (state.attempt env taskId ending.encounter).run = state.run ∧
      (state.attempt env taskId ending.encounter).pending ≠ none
  final : ∀ state ending, AttemptMade env taskId run endings state ending →
    ending.outcome.succeeds = false →
    ending.outcome.connectionFails = false ∨ state.attempts = maxRetries →
    (state.attempt env taskId ending.encounter).item.row.status = .errored
  completed :
    ((RetryState.start task run).handle env taskId endings).item.row.status = .completed ↔
      ∃ before ending after, endings = before ++ ending :: after ∧
        (∀ other ∈ before, other.outcome.connectionFails = true) ∧
        before.length ≤ maxRetries ∧ ending.outcome.succeeds = true
  attempts : ((RetryState.start task run).handle env taskId endings).attempts ≤ maxRetries + 1

end Meaning

/-- No outcome of the first two attempts that are made is misread, after a
number of attempts before. -/
def ReadsRight (attempts : Nat) (endings : List (AttemptEnd env repr task)) : Prop :=
  ∀ before ending after, endings = before ++ ending :: after →
    attempts + before.length < maxRetries →
    (∀ other ∈ before, other.outcome.connectionFails = true) → ¬ending.outcome.Misread

theorem ReadsRight.head {attempts : Nat} {ending : AttemptEnd env repr task}
    {endings : List (AttemptEnd env repr task)} (right : ReadsRight attempts (ending :: endings))
    (within : attempts < maxRetries) : ¬ending.outcome.Misread :=
  right [] ending endings rfl within (by simp)

theorem ReadsRight.tail {attempts : Nat} {ending : AttemptEnd env repr task}
    {endings : List (AttemptEnd env repr task)} (right : ReadsRight attempts (ending :: endings))
    (fails : ending.outcome.connectionFails = true) : ReadsRight (attempts + 1) endings := by
  intro before other after split within beforeFail
  apply right (ending :: before) other after
  · rw [split, List.cons_append]
  · rw [List.length_cons]
    omega
  · exact List.forall_mem_cons.mpr ⟨fails, beforeFail⟩

namespace RetryState

variable {state : RetryState} {attempts : Nat} {ending : AttemptEnd env repr task}
variable {endings before : List (AttemptEnd env repr task)}

/-- An attempt that is read right ends the item or repeats a connection
failure. -/
theorem Waiting.attempt_cases (waiting : state.Waiting taskId attempts)
    (right : attempts < maxRetries → ¬ending.outcome.Misread) :
    (ending.outcome.succeeds = true ∧
      (state.attempt env taskId ending.encounter).Ended .completed (attempts + 1)) ∨
    (ending.outcome.connectionFails = true ∧ attempts < maxRetries ∧
      (state.attempt env taskId ending.encounter).Waiting taskId (attempts + 1) ∧
      (state.attempt env taskId ending.encounter).run = state.run) ∨
    (ending.outcome.succeeds = false ∧
      ¬(ending.outcome.connectionFails = true ∧ attempts < maxRetries) ∧
      (state.attempt env taskId ending.encounter).Ended .errored (attempts + 1)) := by
  cases failed : ending.outcome.exception with
  | none =>
      have succeeded := Outcome.exception_none_iff.mp failed
      exact .inl ⟨succeeded, waiting.attempt_of_success succeeded⟩
  | some exc =>
      have unsuccessful := Outcome.not_succeeds_of_exception failed
      have readRight : attempts < maxRetries →
          isTransientError exc = ending.outcome.connectionFails := by
        intro within
        have sound := right within
        rw [Outcome.misread_iff failed] at sound
        exact not_not.mp sound
      by_cases transient : isTransientError exc = true ∧ attempts < maxRetries
      · have fails := (readRight transient.2).symm.trans transient.1
        have retried := waiting.attempt_of_retried failed transient.1 transient.2
        exact .inr (.inl ⟨fails, transient.2, retried⟩)
      · refine .inr (.inr ⟨unsuccessful, ?_, waiting.attempt_of_final failed transient⟩)
        rintro ⟨fails, within⟩
        exact transient ⟨(readRight within).trans fails, within⟩

theorem Waiting.handle_of_pending (waiting : state.Waiting taskId attempts)
    (right : ReadsRight attempts (before ++ endings))
    (pending : (state.handle env taskId before).pending ≠ none) :
    (state.handle env taskId before).Waiting taskId (attempts + before.length) ∧
      ∀ other ∈ before, other.outcome.connectionFails = true := by
  induction before generalizing state attempts with
  | nil => exact ⟨waiting, by simp⟩
  | cons ending before induction =>
      rw [handle_cons] at pending ⊢
      rcases waiting.attempt_cases right.head with
        ⟨_, ended⟩ | ⟨fails, within, next, _⟩ | ⟨_, _, ended⟩
      · rw [ended.handle] at pending
        exact absurd ended.pending pending
      · rcases induction next (right.tail fails) pending with ⟨reached, others⟩
        constructor
        · rw [List.length_cons, Nat.add_comm before.length, ← Nat.add_assoc]
          exact reached
        · exact List.forall_mem_cons.mpr ⟨fails, others⟩
      · rw [ended.handle] at pending
        exact absurd ended.pending pending

theorem Waiting.completed_iff (waiting : state.Waiting taskId attempts)
    (right : ReadsRight attempts endings) :
    (state.handle env taskId endings).item.row.status = .completed ↔
      ∃ before ending after, endings = before ++ ending :: after ∧
        (∀ other ∈ before, other.outcome.connectionFails = true) ∧
        attempts + before.length ≤ maxRetries ∧ ending.outcome.succeeds = true := by
  induction endings generalizing state attempts with
  | nil =>
      have live := waiting.live
      constructor
      · intro completed
        rw [show state.handle env taskId ([] : List (AttemptEnd env repr task)) = state from rfl]
          at completed
        simp [completed] at live
      · rintro ⟨before, ending, after, split, _⟩
        simp at split
  | cons ending endings induction =>
      rw [handle_cons, exists_split_cons_iff]
      rcases waiting.attempt_cases right.head with
        ⟨succeeded, ended⟩ | ⟨fails, within, next, _⟩ | ⟨unsuccessful, final, ended⟩
      · rw [ended.handle]
        exact ⟨fun _ => .inl ⟨waiting.within, succeeded⟩, fun _ => ended.status⟩
      · rw [induction next (right.tail fails)]
        constructor
        · exact fun later => .inr ⟨fails, later⟩
        · rintro (⟨_, succeeded⟩ | ⟨_, later⟩)
          · cases (Outcome.not_succeeds_of_connectionFails fails).symm.trans succeeded
          · exact later
      · rw [ended.handle]
        constructor
        · intro completed
          rw [ended.status] at completed
          cases completed
        · rintro (⟨_, succeeded⟩ | ⟨fails, _, _, _, _, _, bound, _⟩)
          · cases unsuccessful.symm.trans succeeded
          · exact absurd ⟨fails, by omega⟩ final

/-- However its outcomes are read, an item is tried at most three times. -/
theorem Waiting.attempts_le (waiting : state.Waiting taskId attempts)
    (endings : List (AttemptEnd env repr task)) :
    (state.handle env taskId endings).attempts ≤ maxRetries + 1 := by
  induction endings generalizing state attempts with
  | nil =>
      have counted : (state.handle env taskId ([] : List (AttemptEnd env repr task))).attempts =
          attempts := waiting.counted
      have within := waiting.within
      omega
  | cons ending endings induction =>
      rw [handle_cons]
      have within := waiting.within
      cases failed : ending.outcome.exception with
      | none =>
          have ended := waiting.attempt_of_success (Outcome.exception_none_iff.mp failed)
          rw [ended.handle, ended.counted]
          omega
      | some exc =>
          by_cases transient : isTransientError exc = true ∧ attempts < maxRetries
          · exact induction (waiting.attempt_of_retried failed transient.1 transient.2).1
          · have ended := waiting.attempt_of_final failed transient
            rw [ended.handle, ended.counted]
            omega

end RetryState

/-! ## When retries mean what they say -/

section Iff

variable {run : EvalRun} {endings before : List (AttemptEnd env repr task)}

theorem RetrySemantics.of_readsRight (right : ReadsRight 0 endings) :
    RetrySemantics env taskId run endings := by
  have waiting := RetryState.start_waiting task taskId run
  have made : ∀ state ending, AttemptMade env taskId run endings state ending →
      state.Waiting taskId state.attempts ∧
        (state.attempts < maxRetries → ¬ending.outcome.Misread) := by
    rintro state ending ⟨before, after, split, rfl, pending⟩
    rcases waiting.handle_of_pending (split ▸ right) pending with ⟨reached, beforeFail⟩
    rw [Nat.zero_add] at reached
    rw [reached.counted]
    refine ⟨reached, fun within => right before ending after split ?_ beforeFail⟩
    rwa [Nat.zero_add]
  constructor
  · intro state ending attempted fails within
    rcases made state ending attempted with ⟨reached, readRight⟩
    rcases reached.attempt_cases readRight with
      ⟨succeeded, _⟩ | ⟨_, _, next, sameRun⟩ | ⟨_, final, _⟩
    · cases (Outcome.not_succeeds_of_connectionFails fails).symm.trans succeeded
    · exact ⟨next.live, sameRun, by simp [next.pending]⟩
    · exact absurd ⟨fails, within⟩ final
  · intro state ending attempted unsuccessful final
    rcases made state ending attempted with ⟨reached, readRight⟩
    rcases reached.attempt_cases readRight with
      ⟨succeeded, _⟩ | ⟨fails, within, _⟩ | ⟨_, _, ended⟩
    · rw [unsuccessful] at succeeded
      cases succeeded
    · rcases final with permanent | last
      · rw [permanent] at fails
        cases fails
      · omega
    · exact ended.status
  · simpa using waiting.completed_iff right
  · exact waiting.attempts_le endings

theorem RetrySemantics.waiting (semantics : RetrySemantics env taskId run endings)
    {after : List (AttemptEnd env repr task)} (split : endings = before ++ after)
    (within : before.length ≤ maxRetries)
    (fails : ∀ other ∈ before, other.outcome.connectionFails = true) :
    ((RetryState.start task run).handle env taskId before).Waiting taskId before.length := by
  induction before using List.reverseRecOn generalizing after with
  | nil => exact RetryState.start_waiting task taskId run
  | append_singleton before ending induction =>
      rw [List.length_append, List.length_singleton] at within ⊢
      have reached := induction (by rw [split, List.append_assoc]) (by omega)
        fun other member => fails other (List.mem_append_left _ member)
      have endingFails := fails ending (by simp)
      have made : AttemptMade env taskId run endings
          ((RetryState.start task run).handle env taskId before) ending :=
        ⟨before, after, by rw [split, List.append_assoc]; rfl, rfl, by simp [reached.pending]⟩
      rcases semantics.retried _ ending made endingFails (by rw [reached.counted]; omega) with
        ⟨_, _, pending⟩
      rw [RetryState.handle_append]
      cases failed : ending.outcome.exception with
      | none =>
          have ended := reached.attempt_of_success (Outcome.exception_none_iff.mp failed)
          exact absurd ended.pending pending
      | some exc =>
          by_cases transient : isTransientError exc = true ∧ before.length < maxRetries
          · exact (reached.attempt_of_retried failed transient.1 transient.2).1
          · exact absurd (reached.attempt_of_final failed transient).pending pending

/-- Retries mean what they say exactly when neither of the first two attempts
ends in an outcome that is misread. -/
theorem retry_semantics_iff (env : Environment) (repr : String → String) (task : CaseTask)
    (taskId : String) (run : EvalRun) (endings : List (AttemptEnd env repr task)) :
    RetrySemantics env taskId run endings ↔ ReadsRight 0 endings := by
  constructor
  · intro semantics before ending after split within fails misread
    rw [Nat.zero_add] at within
    have reached := semantics.waiting split within.le fails
    have made : AttemptMade env taskId run endings
        ((RetryState.start task run).handle env taskId before) ending :=
      ⟨before, after, split, rfl, by simp [reached.pending]⟩
    cases failed : ending.outcome.exception with
    | none =>
        cases outcome : ending.outcome <;>
          simp [outcome, Outcome.exception, Outcome.Misread] at failed misread
    | some exc =>
        have wrong := (Outcome.misread_iff failed).mp misread
        cases connection : ending.outcome.connectionFails with
        | true =>
            -- A connection failure that is not repeated.
            rw [connection] at wrong
            have ended := reached.attempt_of_final failed fun both => wrong both.1
            have retried := semantics.retried _ ending made connection
              (by rw [reached.counted]; exact within)
            exact retried.2.2 ended.pending
        | false =>
            -- A permanent failure that is repeated.
            rw [connection, ne_eq, Bool.not_eq_false] at wrong
            have next := (reached.attempt_of_retried failed wrong within).1
            have unsuccessful := Outcome.not_succeeds_of_exception failed
            have errored := semantics.final _ ending made unsuccessful (.inl connection)
            have live := next.live
            simp [errored] at live
  · exact RetrySemantics.of_readsRight

end Iff

end Attempts

namespace Scenario

def caseInputs : CaseInputs where
  case := case
  version := version
  evaluatorConfig := evaluatorConfig

def quoted (text : String) : String := s!"'{text}'"

def ending (outcome : Outcome environment quoted task) :
    AttemptEnd environment quoted task where
  outcome := outcome
  integrityError := ⟨"UNIQUE constraint failed"⟩
  utcNow := id
  others := []

/-- The provider accepts the request and does not answer in time. -/
def readTimeout : AttemptEnd environment quoted task :=
  ending (.providerFailure caseInputs .reading .timedOut)

def retriedRun : EvalRun where
  id := "run-1"
  organizationId := "organization-1"
  appVersionId := "version-1"
  suiteId := "suite-1"
  evaluatorConfigId := "config-1"
  status := .running

/-- The first timeout is final. -/
theorem timeout_not_retried :
    ¬RetrySemantics environment "task-1" retriedRun [readTimeout] := by
  intro semantics
  have waiting := RetryState.start_waiting task "task-1" retriedRun
  have permanent : isTransientError ⟨"timed out"⟩ = false := by decide +kernel
  have ended := @RetryState.Waiting.attempt_of_final environment quoted task "task-1" _ 0
    readTimeout waiting ⟨"timed out"⟩ rfl (by simp [permanent])
  have retried := semantics.retried (.start task retriedRun) readTimeout
    ⟨[], [], rfl, rfl, Option.some_ne_none 0⟩ rfl (by decide)
  exact retried.2.2 ended.pending

/-- The version names a module that was never opted in. -/
def pooledVersion : AppVersion :=
  { version with adapterModule := "app.adapters.connection_pool" }

def rejection : PythonException :=
  let quoted := quoted pooledVersion.adapterModule
  ⟨s!"Adapter module {quoted} is not allowed; configure " ++
    "EVALFORGE_ALLOWED_ADAPTER_MODULES to opt in"⟩

def rejectedModule : AttemptEnd environment quoted task :=
  ending (.rejected { caseInputs with version := pooledVersion } {} rejection
    (if_neg (by decide +kernel)))

/-- Its rejection is retried for the word in its path. -/
theorem rejection_retried :
    ¬RetrySemantics environment "task-1" retriedRun [rejectedModule] := by
  intro semantics
  have waiting := RetryState.start_waiting task "task-1" retriedRun
  have transient : isTransientError rejection = true := by decide +kernel
  have next := (@RetryState.Waiting.attempt_of_retried environment quoted task "task-1" _ 0
    rejectedModule waiting rejection rfl transient (by decide)).1
  have errored := semantics.final (.start task retriedRun) rejectedModule
    ⟨[], [], rfl, rfl, Option.some_ne_none 0⟩ rfl (.inl rfl)
  have live := next.live
  rw [errored] at live
  cases live

end Scenario

end EvalForge
