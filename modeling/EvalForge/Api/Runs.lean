import EvalForge.Db.Queries
import EvalForge.Db.Session
import EvalForge.Schemas.Execution
import EvalForge.Schemas.Registry
import EvalForge.Services.RunDispatcher

/-! # Runs -/

namespace EvalForge

open Foundation

/-! ## Creation -/

/-- What a creation reads outside the database: what the two executors read,
the ids and instants of the evidence by item and position, and when, if at all,
the broker refuses the submission. -/
structure RunReadings where
  execution : ExecutionInputs
  dispatch : DispatchInputs
  createdAt : Nat
  evidenceUuid : Nat → Nat → String
  evidenceCreatedAt : Nat → Nat → Nat
  submissionFails : Option Nat

def runRequest (db : Database) (organizationId : String) (payload : RunCreate) : RunRequest where
  organizationId := organizationId
  version := (db.tenantVersion organizationId payload.appVersionId).map (·.toAppVersion)
  suite := (db.tenantSuite organizationId payload.suiteId).map (·.toEvalSuite)
  evaluatorConfig :=
    (db.tenantEvaluatorConfig organizationId payload.evaluatorConfigId).map (·.toEvaluatorConfig)
  suiteCases := (byCreation (·.createdAt) (db.casesOf payload.suiteId)).map (·.toEvalCase)
  caseIds := payload.caseIds

def itemWrites (readings : RunReadings) (index : Nat) (item : ItemRecord) : List Write :=
  let traces := item.traces.mapIdx fun position trace =>
    Write.insertTrace {
      id := readings.evidenceUuid index position, runItemId := item.row.id
      payload := trace.payload, createdAt := readings.evidenceCreatedAt index position }
  let results := item.results.mapIdx fun position result =>
    let position := item.traces.length + position
    Write.insertResult {
      toStoredResult := result.toStoredResult
      id := readings.evidenceUuid index position, runItemId := item.row.id
      createdAt := readings.evidenceCreatedAt index position }
  .insertItem item.row :: (traces ++ results)

/-- What `execute_run` commits. -/
def RunRecord.writes (record : RunRecord) (readings : RunReadings) : List Write :=
  .insertRun { toEvalRun := record.run, createdAt := readings.createdAt } ::
    (record.items.mapIdx (itemWrites readings)).flatten

/-- What `dispatch_run` commits before it submits. -/
def RunSystem.writes (system : RunSystem) (createdAt : Nat) : List Write :=
  .insertRun { toEvalRun := system.run, createdAt } ::
    system.rows.map Write.insertItem

/-- What it commits when the submission fails. -/
def RunSystem.failureWrites (system : RunSystem) (completedAt : Nat) : List Write :=
  let failed := system.failSubmission completedAt
  .setRunProgress failed.run.id failed.run.status failed.run.caseCompleted failed.run.caseErrored
      failed.run.completedAt ::
    failed.rows.map fun row => .setItem row.id row

def RunError.toHttp : RunError → HttpError
  | .resourceNotFound message => httpError 404 message
  | .invalidRunRequest message => httpError 422 message
  | .raised _ => internalServerError

def dispatchError (runId : String) : HttpError where
  status := 503
  detail := .dict [
    ("message", .str s!"Run {runId} could not be dispatched"),
    ("run_id", .str runId)]

def createSyncRun (env : Environment) (readings : RunReadings) (request : RunRequest) :
    Reply RunRead :=
  match executeRun env readings.execution request with
  | .error error => { answer := .error error.toHttp }
  | .ok record =>
      { writes := record.writes readings
        answer := .ok
          ({ toEvalRun := record.run, createdAt := readings.createdAt } : EvalRunRow).read }

def createCeleryRun (readings : RunReadings) (request : RunRequest) : Reply RunRead :=
  match dispatchRun readings.dispatch request with
  | .error error => { answer := .error error.toHttp }
  | .ok system =>
      let writes := system.writes readings.createdAt
      match system.dispatch, readings.submissionFails with
      | .submitting, some completedAt =>
          { writes := writes ++ system.failureWrites completedAt
            answer := .error (dispatchError system.run.id) }
      | _, _ =>
          { writes
            answer := .ok
              ({ toEvalRun := system.run, createdAt := readings.createdAt } : EvalRunRow).read }

def createRun (runMode : String) (env : Environment) (readings : RunReadings) (db : Database)
    (principal : Principal) (payload : RunCreate) : Reply RunRead :=
  match requireRole principal .evaluator with
  | .error error => { answer := .error error }
  | .ok () =>
      let request := runRequest db principal.organizationId payload
      if runMode = "celery" then createCeleryRun readings request
      else createSyncRun env readings request

/-! ## Reads -/

def tenantRunOr404 (db : Database) (principal : Principal) (runId : String) :
    Except HttpError EvalRunRow :=
  match db.tenantRun principal.organizationId runId with
  | some run => .ok run
  | none => .error (httpError 404 "Run not found")

def listRuns (db : Database) (principal : Principal) (query : PageQuery) : List RunRead :=
  (page (·.createdAt) query.limit query.offset (db.runsOf principal.organizationId)).map (·.read)

def getRun (db : Database) (principal : Principal) (runId : String) : Except HttpError RunRead := do
  let run ← tenantRunOr404 db principal runId
  return run.read

def listRunItems (db : Database) (principal : Principal) (runId : String) (query : PageQuery) :
    Except HttpError (List RunItemRead) := do
  let _ ← tenantRunOr404 db principal runId
  let ordered := (db.itemsOf runId).insertionSort fun item other => item.caseId ≤ other.caseId
  let items := (ordered.drop query.offset).take query.limit
  return items.map fun item => item.read (byCreation (·.createdAt) (db.resultsOf item.id))

def getTrace (db : Database) (principal : Principal) (runId caseId : String) :
    Except HttpError TraceRead := do
  let _ ← tenantRunOr404 db principal runId
  match (db.itemsOf runId).find? (·.caseId == caseId) with
  | none => throw (httpError 404 "Run item not found")
  | some item =>
      match db.traceOf item.id with
      | none => throw (httpError 404 "Trace not found")
      | some trace => return trace.read

end EvalForge
