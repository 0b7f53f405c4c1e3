import EvalForge.Models.Entities
import Mathlib.Data.List.Sort

/-! # The synchronous executor

Case selection, redaction, and `execute_run`, which evaluates the selected
cases in one loop and one transaction.
-/

namespace EvalForge

/-! ## Redaction -/

def sensitiveConfigParts : List String :=
  ["api_key", "apikey", "authorization", "credential", "password", "secret", "token"]

def isSensitiveKey (key : String) : Bool :=
  PythonText.containsAny sensitiveConfigParts (PythonText.lower key)

mutual
def redactSensitiveConfig : Json → Json
  | .dict fields => .dict (redactFields fields)
  | .list items => .list (redactItems items)
  | value => value

def redactFields : List (String × Json) → List (String × Json)
  | [] => []
  | (key, value) :: fields =>
      (key, if isSensitiveKey key then .str "[REDACTED]" else redactSensitiveConfig value) ::
        redactFields fields

def redactItems : List Json → List Json
  | [] => []
  | item :: items => redactSensitiveConfig item :: redactItems items
end

/-! ## One case -/

def Environment.extractQuestion (env : Environment) (payload : Json) : String :=
  let rawInput := payload.get "input" (.str "")
  if rawInput.isDict then env.text (rawInput.get "question" (.str "")) else env.text rawInput

def tracePayload (case : EvalCase) (version : AppVersion) (output : AdapterOutput) : Json :=
  .dict [
    ("input", case.payload.get "input" (.dict [])),
    ("version_config", redactSensitiveConfig version.config),
    ("steps", .list output.traceSteps),
    ("output", .dict [
      ("answer", .str output.answer),
      ("retrieved_chunks", .list output.retrievedChunks)]),
    ("metadata", .dict [
      ("adapter_module", .str version.adapterModule),
      ("model_used", .str output.modelUsed),
      ("prompt_used", .str output.promptUsed),
      ("latency_ms", .int output.latencyMs),
      ("estimated_cost_usd", .float output.estimatedCostUsd)])]

/-- The columns hold what the execution of a case writes. -/
structure StoresOutput (storesJson : Json → Bool) (case : EvalCase) (version : AppVersion)
    (output : AdapterOutput) (results : List EvaluationResult) : Prop where
  payload : storesJson (tracePayload case version output) = true
  latency : Column.HoldsInteger output.latencyMs
  cost : Column.HoldsNumeric output.estimatedCostUsd
  storable : ∀ result ∈ results, result.Storable storesJson

/-! ## Case selection -/

/-- The errors a run request raises: the two of `services/errors.py`, and what
escapes from the code below it. -/
inductive RunError
  | resourceNotFound (message : String)
  | invalidRunRequest (message : String)
  | raised (exc : PythonException)

/-- `suiteCases` are the cases linked to the suite, by creation time. -/
def loadSuiteCases (suiteCases : List EvalCase) : Option (List String) → List EvalCase
  | none => suiteCases
  | some caseIds => suiteCases.filter fun case => case.id ∈ caseIds

def validateSelectedCases (cases : List EvalCase) : Option (List String) → Except RunError Unit
  | none =>
      if cases.isEmpty then .error (.invalidRunRequest "No cases found in suite") else .ok ()
  | some caseIds =>
      if ¬caseIds.Nodup then
        .error (.invalidRunRequest "case_ids must not contain duplicates")
      else
        let missing := caseIds.filter fun caseId => caseId ∉ cases.map (·.id)
        let missingIds := ", ".intercalate (missing.insertionSort (· ≤ ·))
        if missing ≠ [] then
          .error (.invalidRunRequest
            s!"Cases do not belong to the selected suite: {missingIds}")
        else
          .ok ()

theorem validateSelectedCases_empty {suiteCases : List EvalCase}
    {caseIds : Option (List String)}
    (valid : validateSelectedCases (loadSuiteCases suiteCases caseIds) caseIds = .ok ()) :
    loadSuiteCases suiteCases caseIds = [] ↔ caseIds = some [] := by
  cases caseIds with
  | none =>
      simp only [validateSelectedCases] at valid
      split at valid
      · cases valid
      · next nonempty => simpa using nonempty
  | some caseIds =>
      cases caseIds with
      | nil => simp [loadSuiteCases]
      | cons caseId caseIds =>
          -- The first id is not missing, so its case is loaded.
          have loaded : loadSuiteCases suiteCases (some (caseId :: caseIds)) ≠ [] := by
            intro empty
            simp [validateSelectedCases, empty] at valid
            split at valid <;> cases valid
          simp [loaded]

structure RunRequest where
  organizationId : String
  version : Option AppVersion
  suite : Option EvalSuite
  evaluatorConfig : Option EvaluatorConfig
  suiteCases : List EvalCase
  caseIds : Option (List String)

structure RunPlan where
  version : AppVersion
  suite : EvalSuite
  evaluatorConfig : EvaluatorConfig
  cases : List EvalCase

/-- The checks with which both executors begin. -/
def RunRequest.check (request : RunRequest) : Except RunError RunPlan :=
  match request.version, request.suite, request.evaluatorConfig with
  | none, _, _ => .error (.resourceNotFound "App version not found")
  | _, none, _ => .error (.resourceNotFound "Eval suite not found")
  | _, _, none => .error (.resourceNotFound "Evaluator config not found")
  | some version, some suite, some evaluatorConfig =>
      if version.appId ≠ suite.appId then
        .error (.invalidRunRequest "App version and eval suite must belong to the same app")
      else
        let cases := loadSuiteCases request.suiteCases request.caseIds
        do
          validateSelectedCases cases request.caseIds
          return { version, suite, evaluatorConfig, cases }

theorem RunRequest.check_ok {request : RunRequest} {plan : RunPlan}
    (checked : request.check = .ok plan) :
    request.version = some plan.version ∧ request.suite = some plan.suite ∧
      request.evaluatorConfig = some plan.evaluatorConfig ∧
      plan.version.appId = plan.suite.appId ∧
      plan.cases = loadSuiteCases request.suiteCases request.caseIds ∧
      validateSelectedCases plan.cases request.caseIds = .ok () := by
  unfold RunRequest.check at checked
  split at checked
  · cases checked
  · cases checked
  · cases checked
  · next version suite evaluatorConfig someVersion someSuite someConfig =>
    split at checked
    · cases checked
    · next sameApp =>
      cases valid : validateSelectedCases
          (loadSuiteCases request.suiteCases request.caseIds) request.caseIds with
      | error refused => simp [valid, bind, Except.bind] at checked
      | ok =>
          simp only [valid, bind, Except.bind, pure, Except.pure] at checked
          cases checked
          exact ⟨someVersion, someSuite, someConfig, not_not.mp sameApp, rfl, valid⟩

theorem RunRequest.check_cases {request : RunRequest} {plan : RunPlan}
    (checked : request.check = .ok plan) : plan.cases = [] ↔ request.caseIds = some [] := by
  rcases RunRequest.check_ok checked with ⟨_, _, _, _, cases, valid⟩
  rw [cases] at valid ⊢
  exact validateSelectedCases_empty valid

def RunPlan.newRun (plan : RunPlan) (organizationId id : String) (now : Nat) : EvalRun where
  id := id
  organizationId := organizationId
  appVersionId := plan.version.id
  suiteId := plan.suite.id
  evaluatorConfigId := plan.evaluatorConfig.id
  status := .running
  startedAt := some now
  caseCount := plan.cases.length

/-! ## The loop over the cases -/

/-- What the database and the clock supply to an execution: fresh ids, the
readings of `utc_now`, and the error of a refused insert. -/
structure ExecutionInputs where
  newUuid : Nat → String
  utcNow : Nat → Nat
  integrityError : PythonException

/-- An item in the session, with what was set on it and added for it since its own
flush. -/
structure SessionItem where
  row : EvalRunItem
  latencyMs : Option Int := none
  costUsd : Option Rat := none
  trace : Option Json := none
  results : List EvaluationResult := []

/-- The rows that the next flush writes, unless a column or the unique constraint
refuses one. -/
def SessionItem.flush (storesJson : Json → Bool) (item : SessionItem) : Option ItemRecord :=
  if (item.results.map (·.evaluatorName)).Nodup ∧
      (∀ text ∈ item.row.errorMessage, Column.HoldsText text) ∧
      ∀ payload ∈ item.trace, storesJson payload = true then do
    let row ← item.row.measure? item.latencyMs item.costUsd
    let results ← item.results.mapM (·.store? storesJson)
    return {
      row
      traces := item.trace.toList.map fun payload => { payload, writtenBy := 0 }
      results := results.map fun result => { toStoredResult := result, writtenBy := 0 } }
  else
    none

structure CaseExecution where
  item : SessionItem
  completed : Nat
  errored : Nat

/-- The body of the loop in `execute_run`. Nothing undoes what the `try` block
did before its exception: the item keeps its latency and cost, and the trace
stays in the session. -/
def executeCase (env : Environment) (inputs : ExecutionInputs) (plan : RunPlan)
    (adapter : Adapter) (runId : String) (index : Nat) (case : EvalCase) : CaseExecution :=
  let row : EvalRunItem :=
    { id := inputs.newUuid (index + 1), runId, caseId := case.id, status := .running,
      startedAt := some (inputs.utcNow (2 * index + 1)) }
  let completedAt := some (inputs.utcNow (2 * index + 2))
  match adapter (env.extractQuestion case.payload) plan.version.config with
  | .error exc =>
      { item :=
          { row := { row with
              status := .errored, errorMessage := some exc.message, completedAt } },
        completed := 0, errored := 1 }
  | .ok output =>
      let row := { row with status := .completed, completedAt }
      let latencyMs := some output.latencyMs
      let costUsd := some output.estimatedCostUsd
      let trace := some (tracePayload case plan.version output)
      match env.evaluateCase case.payload output plan.evaluatorConfig.config with
      | .error exc =>
          let row := { row with status := .errored, errorMessage := some exc.message }
          { item := { row, latencyMs, costUsd, trace }, completed := 1, errored := 1 }
      | .ok results =>
          { item := { row, latencyMs, costUsd, trace, results }, completed := 1, errored := 0 }

/-- The loop with its counters. The next flush writes the rows of a case; no `try`
is open when it raises. -/
def executeCases (env : Environment) (inputs : ExecutionInputs) (plan : RunPlan)
    (adapter : Adapter) (runId : String) (index completed errored : Nat) :
    List EvalCase → Except RunError (List ItemRecord × Nat × Nat)
  | [] => .ok ([], completed, errored)
  | case :: cases =>
      let execution := executeCase env inputs plan adapter runId index case
      match execution.item.flush env.storesJson with
      | none => .error (.raised inputs.integrityError)
      | some item => do
          let (items, completed, errored) ← executeCases env inputs plan adapter runId
            (index + 1) (completed + execution.completed) (errored + execution.errored) cases
          return (item :: items, completed, errored)

structure RunRecord where
  run : EvalRun
  items : List ItemRecord

def executeRun (env : Environment) (inputs : ExecutionInputs) (request : RunRequest) :
    Except RunError RunRecord := do
  let plan ← request.check
  let adapter ← (env.loadAdapter plan.version.adapterModule).mapError .raised
  let run := plan.newRun request.organizationId (inputs.newUuid 0) (inputs.utcNow 0)
  let (items, completed, errored) ←
    executeCases env inputs plan adapter run.id 0 0 0 plan.cases
  return {
    run := { run with
      caseCompleted := completed
      caseErrored := errored
      completedAt := some (inputs.utcNow (2 * plan.cases.length + 1))
      status := if errored = 0 then .completed else .partialRun }
    items }

/-! ## What an execution leaves -/

structure SessionItem.Held (storesJson : Json → Bool) (item : SessionItem) : Prop where
  distinct : (item.results.map (·.evaluatorName)).Nodup
  error : ∀ text ∈ item.row.errorMessage, Column.HoldsText text
  latency : ∀ latency ∈ item.latencyMs, Column.HoldsInteger latency
  cost : ∀ cost ∈ item.costUsd, Column.HoldsNumeric cost
  payload : ∀ payload ∈ item.trace, storesJson payload = true
  storable : ∀ result ∈ item.results, result.Storable storesJson

structure SessionItem.Flushed (item : SessionItem) (record : ItemRecord) : Prop where
  row : ∃ latencyHeld costHeld, record.row = { item.row with
    recordedLatencyMs := item.latencyMs
    recordedCostUsd := item.costUsd.map Column.numeric
    latencyHeld
    costHeld }
  traces : record.traces = item.trace.toList.map fun payload => { payload, writtenBy := 0 }
  results : record.results.map (·.toEvaluationResult) = item.results.map (·.rounded)

section Flush

variable {storesJson : Json → Bool} {item : SessionItem} {record : ItemRecord}

theorem SessionItem.flush_some (flushed : item.flush storesJson = some record) :
    item.Held storesJson ∧ item.Flushed record := by
  unfold flush at flushed
  split at flushed
  · next held =>
    rcases Option.bind_eq_some_iff.mp flushed with ⟨row, measured, rest⟩
    rcases Option.bind_eq_some_iff.mp rest with ⟨results, stored, same⟩
    cases same
    rcases EvalRunItem.measure?_some measured with ⟨fits, rows⟩
    rcases EvaluationResult.mapM_store?_some stored with ⟨storable, rounded⟩
    refine ⟨⟨held.1, held.2.1, fits.1, fits.2, held.2.2, storable⟩, rows, rfl, ?_⟩
    rw [← rounded, List.map_map]
    rfl
  · cases flushed

namespace SessionItem.Flushed

variable (flushed : item.Flushed record)

include flushed

theorem caseId : record.row.caseId = item.row.caseId := by
  rcases flushed.row with ⟨_, _, row⟩
  rw [row]

theorem status : record.row.status = item.row.status := by
  rcases flushed.row with ⟨_, _, row⟩
  rw [row]

theorem latency : record.row.recordedLatencyMs = item.latencyMs := by
  rcases flushed.row with ⟨_, _, row⟩
  rw [row]

theorem cost : record.row.recordedCostUsd = item.costUsd.map Column.numeric := by
  rcases flushed.row with ⟨_, _, row⟩
  rw [row]

end SessionItem.Flushed

theorem SessionItem.Held.nodup (held : item.Held storesJson) (flushed : item.Flushed record) :
    (record.results.map (·.evaluatorName)).Nodup := by
  have names := congrArg (List.map (·.evaluatorName)) flushed.results
  rw [List.map_map, List.map_map] at names
  exact names ▸ held.distinct

theorem SessionItem.Held.flushes (held : item.Held storesJson) :
    ∃ record, item.flush storesJson = some record := by
  rcases @EvalRunItem.measure?_isSome item.row _ _ held.latency held.cost with ⟨row, measured⟩
  rcases EvaluationResult.mapM_store?_isSome held.storable with ⟨results, stored⟩
  rw [flush, if_pos ⟨held.distinct, held.error, held.payload⟩, measured, stored]
  exact ⟨_, rfl⟩

end Flush

section Executed

variable {env : Environment} {inputs : ExecutionInputs} {plan : RunPlan} {adapter : Adapter}
variable {runId : String}

theorem executeCase_answered {case : EvalCase} {output : AdapterOutput}
    {results : List EvaluationResult}
    (called : adapter (env.extractQuestion case.payload) plan.version.config = .ok output)
    (evaluated : env.evaluateCase case.payload output plan.evaluatorConfig.config = .ok results)
    (runId : String) (index : Nat) :
    executeCase env inputs plan adapter runId index case = {
      item := {
        row := {
          id := inputs.newUuid (index + 1)
          runId
          caseId := case.id
          status := .completed
          startedAt := some (inputs.utcNow (2 * index + 1))
          completedAt := some (inputs.utcNow (2 * index + 2)) }
        latencyMs := some output.latencyMs
        costUsd := some output.estimatedCostUsd
        trace := some (tracePayload case plan.version output)
        results }
      completed := 1
      errored := 0 } := by
  simp only [executeCase, called, evaluated]

theorem executeCases_ok {cases : List EvalCase} {index completed errored : Nat}
    {items : List ItemRecord} {counts : Nat × Nat}
    (executed : executeCases env inputs plan adapter runId index completed errored cases =
      .ok (items, counts)) :
    List.Forall₂ (fun case item => ∃ index,
      (executeCase env inputs plan adapter runId index case).item.flush env.storesJson =
        some item) cases items := by
  induction cases generalizing index completed errored items counts with
  | nil =>
      cases executed
      exact .nil
  | cons case cases induction =>
      rw [executeCases] at executed
      simp only [] at executed
      split at executed
      · cases executed
      · next item flushed =>
        cases rest : executeCases env inputs plan adapter runId (index + 1)
            (completed + (executeCase env inputs plan adapter runId index case).completed)
            (errored + (executeCase env inputs plan adapter runId index case).errored) cases with
        | error refused => simp [rest, bind, Except.bind] at executed
        | ok result =>
            simp only [rest, bind, Except.bind, pure, Except.pure] at executed
            cases executed
            exact .cons ⟨index, flushed⟩ (induction rest)

/-- What a synchronous run leaves, by its plan. -/
theorem executeRun_ok {request : RunRequest} {record : RunRecord}
    (executed : executeRun env inputs request = .ok record) :
    ∃ plan adapter, request.check = .ok plan ∧
      env.loadAdapter plan.version.adapterModule = .ok adapter ∧
      ∃ items completed errored,
        executeCases env inputs plan adapter (inputs.newUuid 0) 0 0 0 plan.cases =
          .ok (items, completed, errored) ∧
        record = {
          run := { plan.newRun request.organizationId (inputs.newUuid 0) (inputs.utcNow 0) with
            caseCompleted := completed
            caseErrored := errored
            completedAt := some (inputs.utcNow (2 * plan.cases.length + 1))
            status := if errored = 0 then .completed else .partialRun }
          items } := by
  unfold executeRun at executed
  cases checked : request.check with
  | error refused => simp [checked, bind, Except.bind] at executed
  | ok plan =>
      cases loaded : env.loadAdapter plan.version.adapterModule with
      | error exc => simp [checked, loaded, bind, Except.bind, Except.mapError] at executed
      | ok adapter =>
          cases ran : executeCases env inputs plan adapter (inputs.newUuid 0) 0 0 0 plan.cases with
          | error refused =>
              simp [checked, loaded, RunPlan.newRun, ran, bind, Except.bind, Except.mapError]
                at executed
          | ok result =>
              simp only [checked, loaded, RunPlan.newRun, ran, bind, Except.bind, Except.mapError,
                pure, Except.pure] at executed
              cases executed
              exact ⟨plan, adapter, rfl, loaded, _, _, _, ran, rfl⟩

end Executed

end EvalForge
