import EvalForge.Services.RunExecutor

/-! # The worker tasks

`run_eval_case` as the sequence of its statements against the database. One
step of an attempt is one statement or one committed transaction, so any
number of attempts can be interleaved between their steps. What the adapter
does, an exception of the statement in progress and a crash of the worker are
choices of the environment, made by the action.
-/

namespace EvalForge

/-- `TASK_LEASE_SECONDS`, in microseconds. -/
def taskLease : Nat := 240 * 1000000

def maxRetries : Nat := 2

def transientKeywords : List String :=
  ["connection", "timeout", "temporarily unavailable", "too many connections",
    "connection refused", "operationalerror"]

def isTransientError (exc : PythonException) : Bool :=
  PythonText.containsAny transientKeywords (PythonText.lower exc.message)

/-- The arguments of an `evalforge.eval_case` message, with the rows that
`session.get` finds for them. -/
structure CaseTask where
  runItemId : String
  caseId : String
  versionId : String
  evaluatorConfigId : String
  case : Option EvalCase
  version : Option AppVersion
  evaluatorConfig : Option EvaluatorConfig

structure CaseInputs where
  case : EvalCase
  version : AppVersion
  evaluatorConfig : EvaluatorConfig

def CaseTask.loadEntities (task : CaseTask) : Except PythonException CaseInputs :=
  match task.case, task.version, task.evaluatorConfig with
  | none, _, _ => .error ⟨s!"Case {task.caseId} not found"⟩
  | _, none, _ => .error ⟨s!"Version {task.versionId} not found"⟩
  | _, _, none => .error ⟨s!"Evaluator config {task.evaluatorConfigId} not found"⟩
  | some case, some version, some evaluatorConfig => .ok { case, version, evaluatorConfig }

/-- The extraction of the question, the loading of the adapter and its call. -/
def Environment.adapterOutcome (env : Environment) (inputs : CaseInputs) :
    Except PythonException AdapterOutput := do
  let adapter ← env.loadAdapter inputs.version.adapterModule
  adapter (env.extractQuestion inputs.case.payload) inputs.version.config

/-! ## Statements on the item -/

/-- The `WHERE` clause of `_claim_run_item`: the item is queued, or it runs
under the same task, without a lease or with an expired one. -/
def claimable (now : Nat) (taskId : String) (row : EvalRunItem) : Bool :=
  row.status == .queued ||
    (row.status == .running &&
      (row.workerTaskId == some taskId ||
        match row.leaseExpiresAt with
        | none => true
        | some lease => lease < now))

/-- The guarded update; `none` when it matches no row. -/
def claimRunItem (now : Nat) (taskId : String) (attemptCount : Nat)
    (row : EvalRunItem) : Option EvalRunItem :=
  if claimable now taskId row then
    some { row with
      status := .running
      workerTaskId := some taskId
      leaseExpiresAt := some (now + taskLease)
      attemptCount
      startedAt := some now
      completedAt := none
      errorMessage := none }
  else
    none

def clearStaleData (item : ItemRecord) : ItemRecord :=
  { item with traces := [], results := [] }

structure SuccessRows where
  row : EvalRunItem
  payload : Json
  results : List StoredResult

/-- They are refused where a column does not hold a value. -/
def successRows (storesJson : Json → Bool) (row : EvalRunItem) (inputs : CaseInputs)
    (output : AdapterOutput) (results : List EvaluationResult) (completedAt : Nat) :
    Option SuccessRows :=
  let payload := tracePayload inputs.case inputs.version output
  let row := { row with
    status := .completed
    completedAt := some completedAt
    leaseExpiresAt := none }
  if storesJson payload then do
    let row ← row.measure? (some output.latencyMs) (some output.estimatedCostUsd)
    let results ← results.mapM (·.store? storesJson)
    return { row, payload, results }
  else
    none

/-- The success transaction: the item is written by its primary key, and its
trace and evaluator results are inserted, unless a unique constraint refuses. -/
def commitSuccess (storesJson : Json → Bool) (item : ItemRecord) (inputs : CaseInputs)
    (output : AdapterOutput) (results : List EvaluationResult) (completedAt delivery : Nat) :
    Option ItemRecord :=
  if item.conflicts results then
    none
  else
    (successRows storesJson item.row inputs output results completedAt).map fun rows =>
      ItemRecord.insertEvidence { item with row := rows.row } rows.payload rows.results delivery

/-- What a column holds after a flush: only what differs from the loaded value is
written. -/
def flushed [DecidableEq Value] (loaded changed stored : Value) : Value :=
  if changed = loaded then stored else changed

@[simp] theorem flushed_same [DecidableEq Value] (stored changed : Value) :
    flushed stored changed stored = changed := by
  unfold flushed
  split
  · next same => exact same.symm
  · rfl

/-- The error transaction, also by primary key, on the item as the handler has
loaded it. It was not terminal then, so its status is written. -/
def commitError (item : ItemRecord) (loaded : EvalRunItem) (exc : PythonException)
    (completedAt attemptCount : Nat) : ItemRecord :=
  { item with
    row := { item.row with
      status := .errored
      errorMessage := flushed loaded.errorMessage (some (PythonText.truncate 1000 exc.message))
        item.row.errorMessage
      completedAt := flushed loaded.completedAt (some completedAt) item.row.completedAt
      leaseExpiresAt := flushed loaded.leaseExpiresAt none item.row.leaseExpiresAt
      attemptCount := flushed loaded.attemptCount attemptCount item.row.attemptCount } }

/-! ## The steps of an attempt -/

inductive TaskResult
  | skipped (reason : String)
  | completed (latencyMs : Int) (evaluatorCount : Nat)
  | errored (error : String)

/-- Where an attempt stands: the statement it executes next, with what it has
read or computed so far. -/
inductive Phase
  | received
  | statusRead
  | claimed
  | staleData (inputs : CaseInputs)
  | ready (inputs : CaseInputs)
  | evaluated (inputs : CaseInputs) (output : AdapterOutput)
      (results : List EvaluationResult) (completedAt : Nat)
  | raised (exc : PythonException)
  | failing (exc : PythonException) (loaded : EvalRunItem) (completedAt : Nat)
  | recorded (result : TaskResult)
  | returned (result : TaskResult)
  | retried (exc : PythonException)
  | crashed

namespace Phase

/-- The statement stands inside the `try` block, which ends after the progress
of a completed item was recounted. -/
def inTry : Phase → Bool
  | received | statusRead | claimed | staleData _ | ready _ | evaluated .. => true
  | recorded (.completed ..) => true
  | _ => false

def active : Phase → Bool
  | returned _ | retried _ | crashed => false
  | _ => true

end Phase

/-- One delivery of a message, as a worker executes it. `delivery` counts the
deliveries, `lease` remembers the expiry its own claim wrote. -/
structure Attempt where
  delivery : Nat
  taskId : String
  retries : Nat
  phase : Phase := .received
  lease : Option Nat := none

inductive AttemptAction
  | readStatus
  | claim
  | loadEntities
  | clearStaleData
  | callAdapter (outcome : Except PythonException AdapterOutput)
  | commitSuccess (integrityError : PythonException)
  | handleException
  | commitError
  | refreshProgress
  | interrupt (exc : PythonException)
  | crash

/-- The item and the attempt after a step, with the retries of the message
that `self.retry` publishes. -/
structure AttemptResult where
  item : ItemRecord
  attempt : Attempt
  published : Option Nat := none

def Attempt.enter (attempt : Attempt) (item : ItemRecord) (phase : Phase) : AttemptResult :=
  { item, attempt := { attempt with phase } }

def attemptStep (env : Environment) (task : CaseTask) (now : Nat) (item : ItemRecord)
    (attempt : Attempt) (action : AttemptAction) : Option AttemptResult :=
  match attempt.phase, action with
  | .received, .readStatus =>
      if item.row.status.terminal then
        some (attempt.enter item (.returned (.skipped s!"already_{item.row.status.text}")))
      else
        some (attempt.enter item .statusRead)
  | .statusRead, .claim =>
      match claimRunItem now attempt.taskId (attempt.retries + 1) item.row with
      | some row =>
          some {
            item := { item with row }
            attempt := { attempt with phase := .claimed, lease := some (now + taskLease) } }
      | none => some (attempt.enter item (.returned (.skipped "already_in_progress")))
  | .claimed, .loadEntities =>
      match task.loadEntities with
      | .error exc => some (attempt.enter item (.raised exc))
      | .ok inputs =>
          if attempt.retries > 0 then
            some (attempt.enter item (.staleData inputs))
          else
            some (attempt.enter item (.ready inputs))
  | .staleData inputs, .clearStaleData =>
      some (attempt.enter (EvalForge.clearStaleData item) (.ready inputs))
  | .ready inputs, .callAdapter outcome =>
      match outcome with
      | .error exc => some (attempt.enter item (.raised exc))
      | .ok output =>
          match env.evaluateCase inputs.case.payload output inputs.evaluatorConfig.config with
          | .error exc => some (attempt.enter item (.raised exc))
          | .ok results => some (attempt.enter item (.evaluated inputs output results now))
  | .evaluated inputs output results completedAt, .commitSuccess integrityError =>
      match EvalForge.commitSuccess env.storesJson item inputs output results completedAt
          attempt.delivery with
      | none => some (attempt.enter item (.raised integrityError))
      | some committed =>
          some (attempt.enter committed (.recorded (.completed output.latencyMs results.length)))
  | .raised exc, .handleException =>
      if isTransientError exc && attempt.retries < maxRetries then
        some { attempt.enter item (.retried exc) with published := some (attempt.retries + 1) }
      else if item.row.status.terminal then
        some (attempt.enter item
          (.returned (.errored (PythonText.truncate 1000 exc.message))))
      else
        some (attempt.enter item (.failing exc item.row now))
  | .failing exc loaded completedAt, .commitError =>
      some (attempt.enter
        (EvalForge.commitError item loaded exc completedAt (attempt.retries + 1))
        (.recorded (.errored (PythonText.truncate 1000 exc.message))))
  | .recorded result, .refreshProgress =>
      some (attempt.enter item (.returned result))
  | phase, .interrupt exc =>
      if phase.inTry then some (attempt.enter item (.raised exc)) else none
  | phase, .crash =>
      if phase.active then some (attempt.enter item .crashed) else none
  | _, _ => none

/-! ## What a step can do -/

structure SuccessHeld (storesJson : Json → Bool) (item : ItemRecord) (inputs : CaseInputs)
    (output : AdapterOutput) (results : List EvaluationResult) : Prop extends
    StoresOutput storesJson inputs.case inputs.version output results where
  free : item.conflicts results = false

structure SuccessRows.Of (rows : SuccessRows) (row : EvalRunItem) (inputs : CaseInputs)
    (output : AdapterOutput) (results : List EvaluationResult) (completedAt : Nat) : Prop where
  row : ∃ latencyHeld costHeld, rows.row = { row with
    status := .completed
    completedAt := some completedAt
    leaseExpiresAt := none
    recordedLatencyMs := some output.latencyMs
    recordedCostUsd := some (Column.numeric output.estimatedCostUsd)
    latencyHeld
    costHeld }
  payload : rows.payload = tracePayload inputs.case inputs.version output
  results : rows.results.map (·.toEvaluationResult) = results.map (·.rounded)

def SuccessCommitted (item : ItemRecord) (inputs : CaseInputs) (output : AdapterOutput)
    (results : List EvaluationResult) (completedAt delivery : Nat) (committed : ItemRecord) :
    Prop :=
  ∃ rows : SuccessRows, rows.Of item.row inputs output results completedAt ∧
    committed = ItemRecord.insertEvidence { item with row := rows.row } rows.payload rows.results
      delivery

section Success

variable {storesJson : Json → Bool} {before : EvalRunItem} {rows : SuccessRows}
variable {item committed : ItemRecord} {inputs : CaseInputs} {output : AdapterOutput}
variable {results : List EvaluationResult} {completedAt delivery : Nat}

theorem successRows_some
    (held : successRows storesJson before inputs output results completedAt = some rows) :
    StoresOutput storesJson inputs.case inputs.version output results ∧
      rows.Of before inputs output results completedAt := by
  unfold successRows at held
  dsimp only at held
  split at held
  · next payload =>
    rcases Option.bind_eq_some_iff.mp held with ⟨measuredRow, measured, rest⟩
    rcases Option.bind_eq_some_iff.mp rest with ⟨stored, resultsHeld, same⟩
    cases same
    rcases EvaluationResult.mapM_store?_some resultsHeld with ⟨storable, rounded⟩
    rcases EvalRunItem.measure?_some measured with ⟨fits, columns⟩
    exact ⟨⟨payload, fits.1 _ rfl, fits.2 _ rfl, storable⟩, columns, rfl, rounded⟩
  · cases held

theorem StoresOutput.successRows
    (stores : StoresOutput storesJson inputs.case inputs.version output results)
    (before : EvalRunItem) (completedAt : Nat) :
    ∃ rows, successRows storesJson before inputs output results completedAt = some rows := by
  unfold EvalForge.successRows
  rcases @EvalRunItem.measure?_isSome
    { before with status := .completed, completedAt := some completedAt, leaseExpiresAt := none }
    (some output.latencyMs) (some output.estimatedCostUsd) (by simpa using stores.latency)
    (by simpa using stores.cost) with ⟨measuredRow, measured⟩
  rcases EvaluationResult.mapM_store?_isSome stores.storable with ⟨stored, resultsHeld⟩
  simp only [stores.payload, if_true, measured, resultsHeld]
  exact ⟨_, rfl⟩

/-- A success transaction that goes through. -/
theorem commitSuccess_some
    (success : commitSuccess storesJson item inputs output results completedAt delivery =
      some committed) :
    SuccessHeld storesJson item inputs output results ∧
      SuccessCommitted item inputs output results completedAt delivery committed := by
  unfold commitSuccess at success
  split at success
  · cases success
  · next free =>
    rcases Option.map_eq_some_iff.mp success with ⟨rows, held, same⟩
    rcases successRows_some held with ⟨stores, written⟩
    exact ⟨⟨stores, Bool.eq_false_iff.mpr free⟩, rows, written, same.symm⟩

theorem SuccessHeld.commits (held : SuccessHeld storesJson item inputs output results)
    (completedAt delivery : Nat) :
    ∃ committed, commitSuccess storesJson item inputs output results completedAt delivery =
      some committed := by
  rcases held.toStoresOutput.successRows item.row completedAt with ⟨rows, stored⟩
  rw [commitSuccess, held.free, stored]
  exact ⟨_, rfl⟩

namespace SuccessCommitted

variable (success : SuccessCommitted item inputs output results completedAt delivery committed)

include success

theorem row : ∃ latencyHeld costHeld, committed.row = { item.row with
    status := .completed
    completedAt := some completedAt
    leaseExpiresAt := none
    recordedLatencyMs := some output.latencyMs
    recordedCostUsd := some (Column.numeric output.estimatedCostUsd)
    latencyHeld
    costHeld } := by
  rcases success with ⟨rows, written, rfl⟩
  exact written.row

theorem completed : committed.row.status = .completed := by
  rcases success.row with ⟨_, _, row⟩
  rw [row]

theorem caseId : committed.row.caseId = item.row.caseId := by
  rcases success.row with ⟨_, _, row⟩
  rw [row]

theorem traces : committed.traces = item.traces ++
    [{ payload := tracePayload inputs.case inputs.version output, writtenBy := delivery }] := by
  rcases success with ⟨rows, written, rfl⟩
  rw [ItemRecord.insertEvidence, written.payload]

theorem results_of_empty (empty : item.results = []) :
    committed.results.map (·.toEvaluationResult) = results.map (·.rounded) ∧
      ∀ result ∈ committed.results, result.writtenBy = delivery := by
  rcases success with ⟨rows, written, rfl⟩
  simp only [ItemRecord.insertEvidence, empty, List.nil_append, List.map_map]
  refine ⟨written.results, ?_⟩
  intro result member
  rcases List.mem_map.mp member with ⟨_, _, rfl⟩
  rfl

end SuccessCommitted

end Success

/-- Every way in which `attemptStep` succeeds, with its guards. -/
inductive AttemptTransition (env : Environment) (task : CaseTask) (now : Nat)
    (item : ItemRecord) (attempt : Attempt) : AttemptAction → AttemptResult → Prop
  | skip (phase : attempt.phase = .received) (terminal : item.row.status.terminal = true) :
      AttemptTransition env task now item attempt .readStatus
        (attempt.enter item (.returned (.skipped s!"already_{item.row.status.text}")))
  | read (phase : attempt.phase = .received) (live : item.row.status.terminal = false) :
      AttemptTransition env task now item attempt .readStatus (attempt.enter item .statusRead)
  | claim (row : EvalRunItem) (phase : attempt.phase = .statusRead)
      (claimed : claimRunItem now attempt.taskId (attempt.retries + 1) item.row = some row) :
      AttemptTransition env task now item attempt .claim
        { item := { item with row }
          attempt := { attempt with phase := .claimed, lease := some (now + taskLease) } }
  | lose (phase : attempt.phase = .statusRead)
      (refused : claimRunItem now attempt.taskId (attempt.retries + 1) item.row = none) :
      AttemptTransition env task now item attempt .claim
        (attempt.enter item (.returned (.skipped "already_in_progress")))
  | missing (exc : PythonException) (phase : attempt.phase = .claimed)
      (failed : task.loadEntities = .error exc) :
      AttemptTransition env task now item attempt .loadEntities
        (attempt.enter item (.raised exc))
  | loadStale (inputs : CaseInputs) (phase : attempt.phase = .claimed)
      (loaded : task.loadEntities = .ok inputs) :
      AttemptTransition env task now item attempt .loadEntities
        (attempt.enter item (.staleData inputs))
  | load (inputs : CaseInputs) (phase : attempt.phase = .claimed)
      (loaded : task.loadEntities = .ok inputs) :
      AttemptTransition env task now item attempt .loadEntities
        (attempt.enter item (.ready inputs))
  | clear (inputs : CaseInputs) (phase : attempt.phase = .staleData inputs) :
      AttemptTransition env task now item attempt .clearStaleData
        (attempt.enter (clearStaleData item) (.ready inputs))
  | adapterFails (inputs : CaseInputs) (exc : PythonException)
      (phase : attempt.phase = .ready inputs) :
      AttemptTransition env task now item attempt (.callAdapter (.error exc))
        (attempt.enter item (.raised exc))
  | evaluationFails (inputs : CaseInputs) (output : AdapterOutput) (exc : PythonException)
      (phase : attempt.phase = .ready inputs)
      (failed : env.evaluateCase inputs.case.payload output
        inputs.evaluatorConfig.config = .error exc) :
      AttemptTransition env task now item attempt (.callAdapter (.ok output))
        (attempt.enter item (.raised exc))
  | evaluate (inputs : CaseInputs) (output : AdapterOutput)
      (results : List EvaluationResult) (phase : attempt.phase = .ready inputs)
      (evaluated : env.evaluateCase inputs.case.payload output
        inputs.evaluatorConfig.config = .ok results) :
      AttemptTransition env task now item attempt (.callAdapter (.ok output))
        (attempt.enter item (.evaluated inputs output results now))
  | conflict (inputs : CaseInputs) (output : AdapterOutput)
      (results : List EvaluationResult) (completedAt : Nat) (integrityError : PythonException)
      (phase : attempt.phase = .evaluated inputs output results completedAt)
      (refused : commitSuccess env.storesJson item inputs output results completedAt
        attempt.delivery = none) :
      AttemptTransition env task now item attempt (.commitSuccess integrityError)
        (attempt.enter item (.raised integrityError))
  | commit (inputs : CaseInputs) (output : AdapterOutput)
      (results : List EvaluationResult) (completedAt : Nat) (integrityError : PythonException)
      (committed : ItemRecord) (phase : attempt.phase = .evaluated inputs output results completedAt)
      (stored : commitSuccess env.storesJson item inputs output results completedAt
        attempt.delivery = some committed) :
      AttemptTransition env task now item attempt (.commitSuccess integrityError)
        (attempt.enter committed (.recorded (.completed output.latencyMs results.length)))
  | retry (exc : PythonException) (phase : attempt.phase = .raised exc)
      (transient : isTransientError exc = true) (retries : attempt.retries < maxRetries) :
      AttemptTransition env task now item attempt .handleException
        { attempt.enter item (.retried exc) with published := some (attempt.retries + 1) }
  | settled (exc : PythonException) (phase : attempt.phase = .raised exc)
      (final : ¬(isTransientError exc = true ∧ attempt.retries < maxRetries))
      (terminal : item.row.status.terminal = true) :
      AttemptTransition env task now item attempt .handleException
        (attempt.enter item (.returned (.errored (PythonText.truncate 1000 exc.message))))
  | fail (exc : PythonException) (phase : attempt.phase = .raised exc)
      (final : ¬(isTransientError exc = true ∧ attempt.retries < maxRetries))
      (live : item.row.status.terminal = false) :
      AttemptTransition env task now item attempt .handleException
        (attempt.enter item (.failing exc item.row now))
  | record (exc : PythonException) (loaded : EvalRunItem) (completedAt : Nat)
      (phase : attempt.phase = .failing exc loaded completedAt) :
      AttemptTransition env task now item attempt .commitError
        (attempt.enter (commitError item loaded exc completedAt (attempt.retries + 1))
          (.recorded (.errored (PythonText.truncate 1000 exc.message))))
  | finish (result : TaskResult) (phase : attempt.phase = .recorded result) :
      AttemptTransition env task now item attempt .refreshProgress
        (attempt.enter item (.returned result))
  | interrupt (exc : PythonException) (inTry : attempt.phase.inTry = true) :
      AttemptTransition env task now item attempt (.interrupt exc)
        (attempt.enter item (.raised exc))
  | crash (active : attempt.phase.active = true) :
      AttemptTransition env task now item attempt .crash (attempt.enter item .crashed)

theorem attemptStep_transition {env : Environment} {task : CaseTask} {now : Nat}
    {item : ItemRecord} {attempt : Attempt} {action : AttemptAction} {result : AttemptResult}
    (stepped : attemptStep env task now item attempt action = some result) :
    AttemptTransition env task now item attempt action result := by
  unfold attemptStep at stepped
  split at stepped
  case h_1 phase =>
    split at stepped
    · next terminal => cases stepped; exact .skip phase terminal
    · next live => cases stepped; exact .read phase (by simpa using live)
  case h_2 phase =>
    split at stepped
    · next row claimed => cases stepped; exact .claim row phase claimed
    · next refused => cases stepped; exact .lose phase refused
  case h_3 phase =>
    split at stepped
    · next exc failed => cases stepped; exact .missing exc phase failed
    · next inputs loaded =>
      split at stepped
      · cases stepped; exact .loadStale inputs phase loaded
      · cases stepped; exact .load inputs phase loaded
  case h_4 inputs phase => cases stepped; exact .clear inputs phase
  case h_5 inputs outcome phase =>
    split at stepped
    · next exc => cases stepped; exact .adapterFails inputs exc phase
    · next output =>
      split at stepped
      · next exc failed => cases stepped; exact .evaluationFails inputs output exc phase failed
      · next results evaluated =>
        cases stepped; exact .evaluate inputs output results phase evaluated
  case h_6 inputs output results completedAt integrityError phase =>
    split at stepped
    · next refused => cases stepped; exact .conflict _ _ _ _ _ phase refused
    · next committed stored => cases stepped; exact .commit _ _ _ _ _ committed phase stored
  case h_7 exc phase =>
    split at stepped
    · next transient =>
      cases stepped
      have both : isTransientError exc = true ∧ attempt.retries < maxRetries := by
        simpa using transient
      exact .retry exc phase both.1 both.2
    · next exhausted =>
      have final : ¬(isTransientError exc = true ∧ attempt.retries < maxRetries) := by
        simpa using exhausted
      split at stepped
      · next terminal => cases stepped; exact .settled exc phase final terminal
      · next live => cases stepped; exact .fail exc phase final (by simpa using live)
  case h_8 exc loaded completedAt phase =>
    cases stepped; exact .record exc loaded completedAt phase
  case h_9 result phase => cases stepped; exact .finish result phase
  case h_10 exc =>
    split at stepped
    · next inTry => cases stepped; exact .interrupt exc inTry
    · cases stepped
  case h_11 =>
    split at stepped
    · next active => cases stepped; exact .crash active
    · cases stepped
  case h_12 => cases stepped

end EvalForge
