import EvalForge.Models.Database

/-! # Execution payloads

The bodies and the responses of runs, comparisons and reports.
-/

namespace EvalForge

/-! ## Runs -/

structure RunCreate where
  appVersionId : String
  suiteId : String
  evaluatorConfigId : String
  caseIds : Option (List String) := none

structure RunRead where
  id : String
  appVersionId : String
  suiteId : String
  evaluatorConfigId : String
  status : RunStatus
  caseCount : Nat
  caseCompleted : Nat
  caseErrored : Nat
  startedAt : Option Nat
  completedAt : Option Nat
  createdAt : Nat

def EvalRunRow.read (run : EvalRunRow) : RunRead where
  id := run.id
  appVersionId := run.appVersionId
  suiteId := run.suiteId
  evaluatorConfigId := run.evaluatorConfigId
  status := run.status
  caseCount := run.caseCount
  caseCompleted := run.caseCompleted
  caseErrored := run.caseErrored
  startedAt := run.startedAt
  completedAt := run.completedAt
  createdAt := run.createdAt

structure EvalResultRead where
  id : String
  evaluatorName : String
  score : Option Rat
  passed : Option Bool
  errored : Bool
  skipped : Bool
  errorMessage : Option String
  details : Json
  createdAt : Nat

def EvalResultRow.read (result : EvalResultRow) : EvalResultRead where
  id := result.id
  evaluatorName := result.evaluatorName
  score := result.score
  passed := result.passed
  errored := result.errored
  skipped := result.skipped
  errorMessage := result.errorMessage
  details := result.details
  createdAt := result.createdAt

structure RunItemRead where
  id : String
  runId : String
  caseId : String
  status : ItemStatus
  attemptCount : Nat
  recordedLatencyMs : Option Int
  recordedCostUsd : Option Rat
  errorMessage : Option String
  startedAt : Option Nat
  completedAt : Option Nat
  results : List EvalResultRead

def EvalRunItem.read (item : EvalRunItem) (results : List EvalResultRow) : RunItemRead where
  id := item.id
  runId := item.runId
  caseId := item.caseId
  status := item.status
  attemptCount := item.attemptCount
  recordedLatencyMs := item.recordedLatencyMs
  recordedCostUsd := item.recordedCostUsd
  errorMessage := item.errorMessage
  startedAt := item.startedAt
  completedAt := item.completedAt
  results := results.map (·.read)

structure TraceRead where
  id : String
  runItemId : String
  payload : Json
  createdAt : Nat

def TraceRow.read (trace : TraceRow) : TraceRead where
  id := trace.id
  runItemId := trace.runItemId
  payload := trace.payload
  createdAt := trace.createdAt

/-! ## Comparisons -/

structure ComparisonCreate where
  baselineRunId : String
  candidateRunId : String
  gateRulesId : Option String := none

structure ComparisonRead where
  id : String
  baselineRunId : String
  candidateRunId : String
  gateRulesId : String
  status : ComparisonStatus
  createdAt : Nat
  report : RegressionReport

structure GateDecisionRead where
  verdict : Verdict
  reasons : List GateReason

structure CIGateMetricRead where
  name : Metric
  baseline : Rat
  candidate : Rat
  delta : Rat
  deltaCi : Rat × Rat
  status : Verdict

structure CIGateReportRead where
  comparisonId : String
  baselineRunId : String
  candidateRunId : String
  verdict : Verdict
  shouldFailCi : Bool
  dashboardUrl : Option String
  generatedAt : Nat
  metrics : List CIGateMetricRead
  gateReasons : List GateReason
  markdown : String

end EvalForge
