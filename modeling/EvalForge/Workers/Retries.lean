import EvalForge.Adapters.Providers
import EvalForge.Api.Apps
import EvalForge.Workers.Evidence
import EvalForge.Workers.Progress

/-! # Retries of one item

The attempts on one item, each from its delivery to its end before the next
one starts. An attempt executes its own statements only; a retry that it
publishes is delivered as the next attempt, under the same task id.
-/

namespace EvalForge

/-! ## One attempt -/

/-- What an attempt meets: the rows its ids find, what the extraction, the
loading and the call of the adapter end in, the clock, and the other items of
the run when the progress is recounted. -/
structure Encounter where
  task : CaseTask
  adapterOutcome : Except PythonException AdapterOutput
  integrityError : PythonException
  utcNow : Nat → Nat
  others : List EvalRunItem

def Phase.statement (encounter : Encounter) : Phase → Option AttemptAction
  | received => some .readStatus
  | statusRead => some .claim
  | claimed => some .loadEntities
  | staleData _ => some .clearStaleData
  | ready _ => some (.callAdapter encounter.adapterOutcome)
  | evaluated .. => some (.commitSuccess encounter.integrityError)
  | raised _ => some .handleException
  | failing .. => some .commitError
  | recorded _ => some .refreshProgress
  | returned _ | retried _ | crashed => none

structure Execution where
  item : ItemRecord
  run : EvalRun
  attempt : Attempt
  published : Option Nat := none

namespace Execution

/-- The execution after a statement. The statement at the end of a recorded
attempt recounts the progress of the run. -/
def follow (execution : Execution) (encounter : Encounter) (action : AttemptAction)
    (result : AttemptResult) : Execution where
  item := result.item
  run :=
    match action with
    | .refreshProgress => refreshRunProgress (result.item.row :: encounter.others) execution.run
    | _ => execution.run
  attempt := result.attempt
  published := result.published.or execution.published

def finish (env : Environment) (encounter : Encounter) : Nat → Nat → Execution → Execution
  | 0, _, execution => execution
  | fuel + 1, index, execution =>
      match execution.attempt.phase.statement encounter with
      | none => execution
      | some action =>
          match attemptStep env encounter.task (encounter.utcNow index) execution.item
              execution.attempt action with
          | none => execution
          | some result => finish env encounter fuel (index + 1)
              (execution.follow encounter action result)

def enter (execution : Execution) (phase : Phase) : Execution :=
  { execution with attempt := { execution.attempt with phase } }

end Execution

/-- No attempt has more statements. -/
def attemptStatements : Nat := 8

/-! ## The attempts on an item -/

/-- The item and its run between two attempts, with the retries of the message
that waits for its delivery. -/
structure RetryState where
  item : ItemRecord
  run : EvalRun
  pending : Option Nat
  attempts : Nat

namespace RetryState

def start (task : CaseTask) (run : EvalRun) : RetryState where
  item := { row := { id := task.runItemId, runId := run.id, caseId := task.caseId } }
  run := run
  pending := some 0
  attempts := 0

def attempt (env : Environment) (taskId : String) (state : RetryState) (encounter : Encounter) :
    RetryState :=
  match state.pending with
  | none => state
  | some retries =>
      let ended := Execution.finish env encounter attemptStatements 0
        { item := state.item
          run := state.run
          attempt := { delivery := state.attempts, taskId, retries } }
      { item := ended.item
        run := ended.run
        pending := ended.published
        attempts := state.attempts + 1 }

def attemptAll (env : Environment) (taskId : String) (state : RetryState)
    (encounters : List Encounter) : RetryState :=
  encounters.foldl (attempt env taskId) state

end RetryState

/-! ## The statements of an attempt, one by one -/

namespace Execution

variable {env : Environment} {encounter : Encounter} {execution : Execution}
variable {fuel index : Nat} {inputs : CaseInputs} {exc : PythonException}

theorem finish_step (fuel : Nat) {action : AttemptAction} {result : AttemptResult}
    (next : execution.attempt.phase.statement encounter = some action)
    (stepped : attemptStep env encounter.task (encounter.utcNow index) execution.item
      execution.attempt action = some result) :
    execution.finish env encounter (fuel + 1) index =
      (execution.follow encounter action result).finish env encounter fuel (index + 1) := by
  rw [finish, next]
  simp only [stepped]

def claim (execution : Execution) (now : Nat) : Execution :=
  { execution with
    item := { execution.item with
      row := { execution.item.row with
        status := .running
        workerTaskId := some execution.attempt.taskId
        leaseExpiresAt := some (now + taskLease)
        attemptCount := execution.attempt.retries + 1
        startedAt := some now
        completedAt := none
        errorMessage := none } }
    attempt := { execution.attempt with phase := .claimed, lease := some (now + taskLease) } }

theorem finish_received (phase : execution.attempt.phase = .received)
    (live : execution.item.row.status.terminal = false) :
    execution.finish env encounter (fuel + 1) index =
      (execution.enter .statusRead).finish env encounter fuel (index + 1) := by
  have stepped : attemptStep env encounter.task (encounter.utcNow index) execution.item
      execution.attempt .readStatus =
        some (execution.attempt.enter execution.item .statusRead) := by
    unfold attemptStep
    simp [phase, live]
  exact finish_step fuel (by rw [phase]; rfl) stepped

theorem finish_statusRead (phase : execution.attempt.phase = .statusRead)
    (free : claimable (encounter.utcNow index) execution.attempt.taskId execution.item.row = true) :
    execution.finish env encounter (fuel + 1) index =
      (execution.claim (encounter.utcNow index)).finish env encounter fuel (index + 1) := by
  have stepped : attemptStep env encounter.task (encounter.utcNow index) execution.item
      execution.attempt .claim = some
        { item := (execution.claim (encounter.utcNow index)).item
          attempt := (execution.claim (encounter.utcNow index)).attempt } := by
    unfold attemptStep
    simp [phase, claimRunItem, free, claim]
  exact finish_step fuel (by rw [phase]; rfl) stepped

theorem finish_claimed_missing (phase : execution.attempt.phase = .claimed)
    (missing : encounter.task.loadEntities = .error exc) :
    execution.finish env encounter (fuel + 1) index =
      (execution.enter (.raised exc)).finish env encounter fuel (index + 1) := by
  have stepped : attemptStep env encounter.task (encounter.utcNow index) execution.item
      execution.attempt .loadEntities =
        some (execution.attempt.enter execution.item (.raised exc)) := by
    unfold attemptStep
    simp [phase, missing]
  exact finish_step fuel (by rw [phase]; rfl) stepped

theorem finish_claimed (phase : execution.attempt.phase = .claimed)
    (loaded : encounter.task.loadEntities = .ok inputs)
    (first : execution.attempt.retries = 0) :
    execution.finish env encounter (fuel + 1) index =
      (execution.enter (.ready inputs)).finish env encounter fuel (index + 1) := by
  have stepped : attemptStep env encounter.task (encounter.utcNow index) execution.item
      execution.attempt .loadEntities =
        some (execution.attempt.enter execution.item (.ready inputs)) := by
    unfold attemptStep
    simp [phase, loaded, first]
  exact finish_step fuel (by rw [phase]; rfl) stepped

theorem finish_claimed_retry (phase : execution.attempt.phase = .claimed)
    (loaded : encounter.task.loadEntities = .ok inputs)
    (retried : execution.attempt.retries ≠ 0) :
    execution.finish env encounter (fuel + 2) index =
      ({ execution with item := clearStaleData execution.item }.enter (.ready inputs)).finish env
        encounter fuel (index + 2) := by
  have stepped : attemptStep env encounter.task (encounter.utcNow index) execution.item
      execution.attempt .loadEntities =
        some (execution.attempt.enter execution.item (.staleData inputs)) := by
    unfold attemptStep
    simp [phase, loaded, Nat.pos_of_ne_zero retried]
  have cleared : attemptStep env encounter.task (encounter.utcNow (index + 1)) execution.item
      (execution.enter (.staleData inputs)).attempt .clearStaleData =
        some (execution.attempt.enter (clearStaleData execution.item) (.ready inputs)) := rfl
  have loadedStale := finish_step (fuel + 1) (by rw [phase]; rfl) stepped
  have clearedStep := loadedStale.trans (finish_step fuel rfl cleared)
  exact clearedStep

theorem finish_ready_error (phase : execution.attempt.phase = .ready inputs)
    (failed : encounter.adapterOutcome = .error exc) :
    execution.finish env encounter (fuel + 1) index =
      (execution.enter (.raised exc)).finish env encounter fuel (index + 1) := by
  have stepped : attemptStep env encounter.task (encounter.utcNow index) execution.item
      execution.attempt (.callAdapter encounter.adapterOutcome) =
        some (execution.attempt.enter execution.item (.raised exc)) := by
    unfold attemptStep
    simp [phase, failed]
  exact finish_step fuel (by rw [phase]; rfl) stepped

theorem finish_ready_ok {output : AdapterOutput} {results : List EvaluationResult}
    (phase : execution.attempt.phase = .ready inputs)
    (answered : encounter.adapterOutcome = .ok output)
    (evaluated : env.evaluateCase inputs.case.payload output inputs.evaluatorConfig.config =
      .ok results)
    (held : SuccessHeld env.storesJson execution.item inputs output results) :
    (execution.finish env encounter (fuel + 3) index).item.row.status = .completed ∧
      (execution.finish env encounter (fuel + 3) index).published = execution.published := by
  have called : attemptStep env encounter.task (encounter.utcNow index) execution.item
      execution.attempt (.callAdapter encounter.adapterOutcome) =
        some (execution.attempt.enter execution.item
          (.evaluated inputs output results (encounter.utcNow index))) := by
    unfold attemptStep
    simp [phase, answered, evaluated]
  rcases held.commits (encounter.utcNow index) execution.attempt.delivery with
    ⟨item, success⟩
  have committed : attemptStep env encounter.task (encounter.utcNow (index + 1)) execution.item
      (execution.enter (.evaluated inputs output results (encounter.utcNow index))).attempt
      (.commitSuccess encounter.integrityError) =
        some (execution.attempt.enter item
          (.recorded (.completed output.latencyMs results.length))) := by
    unfold attemptStep
    simp [enter, Attempt.enter, success]
  have completed : item.row.status = .completed := (commitSuccess_some success).2.completed
  have evaluatedStep := finish_step (fuel + 2) (by rw [phase]; rfl) called
  have committedStep := evaluatedStep.trans (finish_step (fuel + 1) rfl committed)
  rw [committedStep.trans (finish_step fuel rfl rfl)]
  cases fuel with
  | zero => exact ⟨completed, rfl⟩
  | succ fuel => exact ⟨completed, rfl⟩

theorem finish_raised_retried (phase : execution.attempt.phase = .raised exc)
    (transient : isTransientError exc = true) (retries : execution.attempt.retries < maxRetries) :
    (execution.finish env encounter (fuel + 1) index).item = execution.item ∧
      (execution.finish env encounter (fuel + 1) index).run = execution.run ∧
      (execution.finish env encounter (fuel + 1) index).published =
        some (execution.attempt.retries + 1) := by
  have stepped : attemptStep env encounter.task (encounter.utcNow index) execution.item
      execution.attempt .handleException =
        some { execution.attempt.enter execution.item (.retried exc) with
          published := some (execution.attempt.retries + 1) } := by
    unfold attemptStep
    simp [phase, transient, retries]
  rw [finish_step fuel (by rw [phase]; rfl) stepped]
  cases fuel with
  | zero => exact ⟨rfl, rfl, rfl⟩
  | succ fuel => exact ⟨rfl, rfl, rfl⟩

theorem finish_raised_final (phase : execution.attempt.phase = .raised exc)
    (live : execution.item.row.status.terminal = false)
    (final : ¬(isTransientError exc = true ∧ execution.attempt.retries < maxRetries)) :
    (execution.finish env encounter (fuel + 3) index).item.row.status = .errored ∧
      (execution.finish env encounter (fuel + 3) index).published = execution.published := by
  have stepped : attemptStep env encounter.task (encounter.utcNow index) execution.item
      execution.attempt .handleException =
        some (execution.attempt.enter execution.item
          (.failing exc execution.item.row (encounter.utcNow index))) := by
    unfold attemptStep
    simp [phase, final, live]
  have failing := finish_step (fuel + 2) (by rw [phase]; rfl) stepped
  have recorded := failing.trans (finish_step (fuel + 1) rfl rfl)
  rw [recorded.trans (finish_step fuel rfl rfl)]
  cases fuel with
  | zero => exact ⟨rfl, rfl⟩
  | succ fuel => exact ⟨rfl, rfl⟩

structure Claimed (start reached : Execution) : Prop where
  retries : reached.attempt.retries = start.attempt.retries
  run : reached.run = start.run
  published : reached.published = start.published
  status : reached.item.row.status = .running
  owner : reached.item.row.workerTaskId = some start.attempt.taskId
  traces : reached.item.traces = []
  results : reached.item.results = []

section Entered

variable {start : Execution}

theorem finish_received_claimed (phase : start.attempt.phase = .received)
    (live : start.item.row.status.terminal = false)
    (free : ∀ now, claimable now start.attempt.taskId start.item.row = true)
    (traces : start.item.traces = []) (results : start.item.results = []) :
    ∃ reached, start.finish env encounter attemptStatements 0 =
        reached.finish env encounter 6 2 ∧
      reached.attempt.phase = .claimed ∧ start.Claimed reached := by
  refine ⟨(start.enter .statusRead).claim (encounter.utcNow 1), ?_, rfl, ?_⟩
  · rw [attemptStatements, finish_received phase live]
    exact finish_statusRead rfl (free _)
  · exact ⟨rfl, rfl, rfl, rfl, rfl, traces, results⟩

theorem Claimed.finish_ready {reached : Execution} (claimed : start.Claimed reached)
    (phase : reached.attempt.phase = .claimed)
    (loaded : encounter.task.loadEntities = .ok inputs) :
    ∃ rest index ready, reached.finish env encounter 6 2 =
        ready.finish env encounter (rest + 4) index ∧
      ready.attempt.phase = .ready inputs ∧ start.Claimed ready := by
  by_cases first : reached.attempt.retries = 0
  · refine ⟨1, 3, reached.enter (.ready inputs), finish_claimed phase loaded first, rfl, ?_⟩
    exact ⟨claimed.retries, claimed.run, claimed.published, claimed.status, claimed.owner,
      claimed.traces, claimed.results⟩
  · refine ⟨0, 4, _, finish_claimed_retry phase loaded first, rfl, ?_⟩
    exact ⟨claimed.retries, claimed.run, claimed.published, claimed.status, claimed.owner,
      rfl, rfl⟩

end Entered

end Execution

/-! ## Outcomes -/

def CaseTask.found (task : CaseTask) (inputs : CaseInputs) : CaseTask :=
  { task with
    case := some inputs.case
    version := some inputs.version
    evaluatorConfig := some inputs.evaluatorConfig }

inductive Outcome (env : Environment) (repr : String → String) (task : CaseTask)
  | success (inputs : CaseInputs) (output : AdapterOutput) (results : List EvaluationResult)
      (evaluated : env.evaluateCase inputs.case.payload output inputs.evaluatorConfig.config =
        .ok results)
      (distinct : (results.map (·.evaluatorName)).Nodup)
      (held : StoresOutput env.storesJson inputs.case inputs.version output results)
  | providerFailure (inputs : CaseInputs) (call : ProviderCall) (failure : ConnectionFailure)
  | missing (case : Option EvalCase) (version : Option AppVersion)
      (evaluatorConfig : Option EvaluatorConfig) (exc : PythonException)
      (notFound : { task with case, version, evaluatorConfig }.loadEntities = .error exc)
  | rejected (inputs : CaseInputs) (settings : SettingsValues) (exc : PythonException)
      (refused : validateAdapterModule settings repr inputs.version.adapterModule = .error exc)

namespace Outcome

variable {env : Environment} {repr : String → String} {task : CaseTask}

def loadedTask : Outcome env repr task → CaseTask
  | success inputs .. | providerFailure inputs .. | rejected inputs .. => task.found inputs
  | missing case version evaluatorConfig .. => { task with case, version, evaluatorConfig }

def exception : Outcome env repr task → Option PythonException
  | success .. => none
  | providerFailure _ call failure => some (call.exception failure)
  | missing _ _ _ exc _ | rejected _ _ exc _ => some exc

def adapterOutcome : Outcome env repr task → Except PythonException AdapterOutput
  | success _ output .. => .ok output
  | providerFailure _ call failure => .error (call.exception failure)
  | missing _ _ _ exc _ | rejected _ _ exc _ => .error exc

def connectionFails : Outcome env repr task → Bool
  | providerFailure .. => true
  | _ => false

def succeeds : Outcome env repr task → Bool
  | success .. => true
  | _ => false

/-- The two failures that `_is_transient_error` takes for the other kind: a
timeout, whose text holds no keyword, and a permanent failure whose text
happens to hold one. -/
def Misread : Outcome env repr task → Prop
  | success .. => False
  | providerFailure _ _ failure => failure.timeout = true
  | missing _ _ _ exc _ | rejected _ _ exc _ => isTransientError exc = true

theorem exception_none_iff {outcome : Outcome env repr task} :
    outcome.exception = none ↔ outcome.succeeds = true := by
  cases outcome <;> simp [exception, succeeds]

theorem not_succeeds_of_exception {outcome : Outcome env repr task} {exc : PythonException}
    (failed : outcome.exception = some exc) : outcome.succeeds = false := by
  cases outcome with
  | success => cases failed
  | providerFailure | missing | rejected => rfl

theorem not_succeeds_of_connectionFails {outcome : Outcome env repr task}
    (fails : outcome.connectionFails = true) : outcome.succeeds = false := by
  cases outcome with
  | success => cases fails
  | providerFailure | missing | rejected => rfl

theorem misread_iff {outcome : Outcome env repr task} {exc : PythonException}
    (failed : outcome.exception = some exc) :
    outcome.Misread ↔ isTransientError exc ≠ outcome.connectionFails := by
  cases outcome with
  | success => cases failed
  | providerFailure inputs call failure =>
      cases failed
      simp [Misread, connectionFails, call.isTransientError_exception]
  | missing case version evaluatorConfig raised notFound =>
      cases failed
      simp [Misread, connectionFails]
  | rejected inputs settings raised refused =>
      cases failed
      simp [Misread, connectionFails]

end Outcome

structure AttemptEnd (env : Environment) (repr : String → String) (task : CaseTask) where
  outcome : Outcome env repr task
  integrityError : PythonException
  utcNow : Nat → Nat
  others : List EvalRunItem

def AttemptEnd.encounter {env : Environment} {repr : String → String} {task : CaseTask}
    (ending : AttemptEnd env repr task) : Encounter where
  task := ending.outcome.loadedTask
  adapterOutcome := ending.outcome.adapterOutcome
  integrityError := ending.integrityError
  utcNow := ending.utcNow
  others := ending.others

theorem AttemptEnd.fails {env : Environment} {repr : String → String} {task : CaseTask}
    {ending : AttemptEnd env repr task} {exc : PythonException}
    (failed : ending.outcome.exception = some exc) :
    ending.encounter.task.loadEntities = .error exc ∨
      (∃ inputs, ending.encounter.task.loadEntities = .ok inputs) ∧
        ending.encounter.adapterOutcome = .error exc := by
  rcases ending with ⟨outcome, integrityError, utcNow, others⟩
  cases outcome with
  | success => cases failed
  | providerFailure inputs call failure =>
      cases failed
      exact .inr ⟨⟨inputs, rfl⟩, rfl⟩
  | missing case version evaluatorConfig raised notFound =>
      cases failed
      exact .inl notFound
  | rejected inputs settings raised refused =>
      cases failed
      exact .inr ⟨⟨inputs, rfl⟩, rfl⟩

/-! ## What an attempt does to a waiting item -/

namespace RetryState

variable {env : Environment} {repr : String → String} {task : CaseTask} {taskId : String}
variable {state : RetryState} {attempts : Nat} {ending : AttemptEnd env repr task}

structure Waiting (taskId : String) (attempts : Nat) (state : RetryState) : Prop where
  pending : state.pending = some attempts
  counted : state.attempts = attempts
  within : attempts ≤ maxRetries
  traces : state.item.traces = []
  results : state.item.results = []
  free : state.item.row.status = .queued ∨
    state.item.row.status = .running ∧ state.item.row.workerTaskId = some taskId

structure Ended (status : ItemStatus) (attempts : Nat) (state : RetryState) : Prop where
  pending : state.pending = none
  counted : state.attempts = attempts
  status : state.item.row.status = status

theorem Waiting.live (waiting : state.Waiting taskId attempts) :
    state.item.row.status.terminal = false := by
  rcases waiting.free with queued | ⟨running, _⟩
  · simp [queued]
  · simp [running]

theorem Waiting.claimable (waiting : state.Waiting taskId attempts) (now : Nat) :
    claimable now taskId state.item.row = true := by
  rcases waiting.free with queued | ⟨running, owner⟩
  · simp [EvalForge.claimable, queued]
  · simp [EvalForge.claimable, running, owner]

def received (taskId : String) (retries : Nat) (state : RetryState) : Execution where
  item := state.item
  run := state.run
  attempt := { delivery := state.attempts, taskId, retries }

theorem Waiting.attempt_eq (waiting : state.Waiting taskId attempts) (encounter : Encounter) :
    state.attempt env taskId encounter =
      { item := ((state.received taskId attempts).finish env encounter attemptStatements 0).item
        run := ((state.received taskId attempts).finish env encounter attemptStatements 0).run
        pending :=
          ((state.received taskId attempts).finish env encounter attemptStatements 0).published
        attempts := attempts + 1 } := by
  rw [attempt, waiting.pending]
  simp only [received, waiting.counted]

theorem Waiting.claimed (waiting : state.Waiting taskId attempts) (env : Environment)
    (encounter : Encounter) :
    ∃ reached, (state.received taskId attempts).finish env encounter attemptStatements 0 =
        reached.finish env encounter 6 2 ∧
      reached.attempt.phase = .claimed ∧ (state.received taskId attempts).Claimed reached :=
  Execution.finish_received_claimed rfl waiting.live waiting.claimable waiting.traces
    waiting.results

theorem Waiting.raised (waiting : state.Waiting taskId attempts) {exc : PythonException}
    (failed : ending.outcome.exception = some exc) :
    ∃ rest index raised,
      (state.received taskId attempts).finish env ending.encounter attemptStatements 0 =
        raised.finish env ending.encounter (rest + 3) index ∧
      raised.attempt.phase = .raised exc ∧ (state.received taskId attempts).Claimed raised := by
  rcases waiting.claimed env ending.encounter with ⟨reached, entered, phase, claimed⟩
  rcases AttemptEnd.fails failed with notFound | ⟨⟨inputs, loaded⟩, adapterFailed⟩
  · refine ⟨2, 3, reached.enter (.raised exc), ?_, rfl, ?_⟩
    · rw [entered, Execution.finish_claimed_missing phase notFound]
    · exact ⟨claimed.retries, claimed.run, claimed.published, claimed.status, claimed.owner,
        claimed.traces, claimed.results⟩
  · rcases claimed.finish_ready phase loaded with ⟨rest, index, ready, prepared, isReady, claimed⟩
    refine ⟨rest, index + 1, ready.enter (.raised exc), ?_, rfl, ?_⟩
    · rw [entered, prepared, Execution.finish_ready_error isReady adapterFailed]
    · exact ⟨claimed.retries, claimed.run, claimed.published, claimed.status, claimed.owner,
        claimed.traces, claimed.results⟩

theorem Waiting.attempt_of_answer (waiting : state.Waiting taskId attempts)
    {encounter : Encounter} {inputs : CaseInputs} {output : AdapterOutput}
    {results : List EvaluationResult} (loaded : encounter.task.loadEntities = .ok inputs)
    (answered : encounter.adapterOutcome = .ok output)
    (evaluated : env.evaluateCase inputs.case.payload output inputs.evaluatorConfig.config =
      .ok results)
    (distinct : (results.map (·.evaluatorName)).Nodup)
    (held : StoresOutput env.storesJson inputs.case inputs.version output results) :
    (state.attempt env taskId encounter).Ended .completed (attempts + 1) := by
  rcases waiting.claimed env encounter with ⟨reached, entered, phase, claimed⟩
  rcases claimed.finish_ready phase loaded with ⟨rest, index, ready, prepared, isReady, claimed⟩
  have free : ready.item.conflicts results = false := by
    rw [ItemRecord.conflicts_of_empty claimed.traces claimed.results]
    simp [distinct]
  have completed := @Execution.finish_ready_ok env encounter ready (rest + 1) index inputs output
    results isReady answered evaluated ⟨held, free⟩
  rw [waiting.attempt_eq, entered, prepared]
  exact ⟨completed.2.trans claimed.published, rfl, completed.1⟩

theorem Waiting.attempt_of_success (waiting : state.Waiting taskId attempts)
    (succeeded : ending.outcome.succeeds = true) :
    (state.attempt env taskId ending.encounter).Ended .completed (attempts + 1) := by
  rcases ending with ⟨outcome, integrityError, utcNow, others⟩
  cases outcome with
  | success inputs output results evaluated distinct held =>
      exact waiting.attempt_of_answer rfl rfl evaluated distinct held
  | providerFailure | missing | rejected => cases succeeded

theorem Waiting.attempt_of_retried (waiting : state.Waiting taskId attempts)
    {exc : PythonException} (failed : ending.outcome.exception = some exc)
    (transient : isTransientError exc = true) (within : attempts < maxRetries) :
    (state.attempt env taskId ending.encounter).Waiting taskId (attempts + 1) ∧
      (state.attempt env taskId ending.encounter).run = state.run := by
  rcases waiting.raised failed with ⟨rest, index, raised, entered, phase, claimed⟩
  have retries : raised.attempt.retries < maxRetries := by
    rw [claimed.retries]
    exact within
  rw [waiting.attempt_eq, entered]
  have retried := @Execution.finish_raised_retried env ending.encounter raised (rest + 2) index
    exc phase transient retries
  refine ⟨⟨?_, rfl, within, ?_, ?_, ?_⟩, retried.2.1.trans claimed.run⟩
  · rw [retried.2.2, claimed.retries]
    rfl
  · rw [retried.1, claimed.traces]
  · rw [retried.1, claimed.results]
  · rw [retried.1]
    exact .inr ⟨claimed.status, claimed.owner⟩

theorem Waiting.attempt_of_final (waiting : state.Waiting taskId attempts)
    {exc : PythonException} (failed : ending.outcome.exception = some exc)
    (final : ¬(isTransientError exc = true ∧ attempts < maxRetries)) :
    (state.attempt env taskId ending.encounter).Ended .errored (attempts + 1) := by
  rcases waiting.raised failed with ⟨rest, index, raised, entered, phase, claimed⟩
  have live : raised.item.row.status.terminal = false := by simp [claimed.status]
  rw [waiting.attempt_eq, entered]
  have errored := @Execution.finish_raised_final env ending.encounter raised rest index exc
    phase live (by rw [claimed.retries]; exact final)
  exact ⟨errored.2.trans claimed.published, rfl, errored.1⟩

theorem Ended.attemptAll {status : ItemStatus} (ended : state.Ended status attempts)
    (encounters : List Encounter) : state.attemptAll env taskId encounters = state := by
  induction encounters with
  | nil => rfl
  | cons encounter encounters induction =>
      have same : state.attempt env taskId encounter = state := by
        rw [attempt, ended.pending]
      rw [RetryState.attemptAll, List.foldl_cons, same]
      exact induction

end RetryState

end EvalForge
