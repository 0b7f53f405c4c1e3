import EvalForge.Core.Config
import EvalForge.Core.Tenancy
import EvalForge.Foundation.RoundedMeans
import EvalForge.Services.CiGateReport
import EvalForge.Services.GateRuleValidation
import EvalForge.Db.Queries

/-! # The dashboard snapshot

The rows of a comparison are loaded first; the snapshot is computed from them.
-/

namespace EvalForge

open Foundation

/-! ## The rows of a snapshot -/

structure ItemRows where
  item : EvalRunItem
  results : List EvalResultRow
  trace : Option TraceRow
  case : Option EvalCaseRow

structure RunRows where
  run : EvalRunRow
  version : Option AppVersionRow
  suite : Option EvalSuiteRow
  items : List ItemRows

structure DashboardRows where
  comparison : ComparisonRow
  report : RegressionReport
  baseline : RunRows
  candidate : RunRows
  gateRule : Option GateRuleRow
  app : Option App

namespace Database

variable (db : Database)

def itemRows (item : EvalRunItem) : ItemRows where
  item := item
  results := db.resultsOf item.id
  trace := db.traceOf item.id
  case := db.case? item.caseId

def runRows (run : EvalRunRow) : RunRows where
  run := run
  version := db.version? run.appVersionId
  suite := db.suite? run.suiteId
  items := (db.itemsOf run.id).map db.itemRows

def loadComparison (organizationId : String) : Option String → Option ComparisonRow
  | some comparisonId => db.tenantComparison organizationId comparisonId
  | none =>
      (page (·.createdAt) 1 0
        ((db.comparisonsOf organizationId).filter (·.status == .computed))).head?

def loadDashboard (organizationId : String) (comparisonId : Option String) :
    Option DashboardRows := do
  let comparison ← db.loadComparison organizationId comparisonId
  let report ← db.reportOf comparison.id
  let baseline ← db.run? comparison.baselineRunId
  let candidate ← db.run? comparison.candidateRunId
  return {
    comparison
    report
    baseline := db.runRows baseline
    candidate := db.runRows candidate
    gateRule := db.gateRule? comparison.gateRulesId
    app := (db.version? candidate.appVersionId).bind fun version => db.app? version.appId }

end Database

/-! ## JSON values -/

/-- `value.get(key, default)`, which raises unless the value is a dictionary. -/
def Json.getOrRaise (value : Json) (key : String) (default : Json) : Except HttpError Json :=
  if value.isDict then .ok (value.get key default) else .error internalServerError

/-- `_as_float`. `none` is an infinity or no number, which a response cannot hold. -/
def asFloat (floats : FloatConversion) (value : Json) : Except HttpError (Option Rat) :=
  match floats.convert value with
  | .notConvertible | .overflows => .error internalServerError
  | .notFinite => .ok none
  | .finite value => .ok (some value)

/-! ## The snapshot -/

structure BenchmarkSummary where
  generatedAt : Nat
  projectName : String
  suiteName : String
  baselineVersion : String
  candidateVersion : String
  caseCount : Nat
  totalExecutions : Nat
  elapsedSeconds : Rat
  casesPerMinute : Rat
  gateVerdict : Verdict

/-- The status is `none` where the metric is not evaluated. -/
structure DashboardMetric where
  key : Metric
  label : String
  shortLabel : String
  unit : String
  baseline : Rat
  candidate : Rat
  baselineCi : Rat × Rat
  candidateCi : Rat × Rat
  delta : Rat
  deltaCi : Rat × Rat
  direction : String
  tolerance : Option Rat
  status : Option Verdict

structure DashboardRun where
  id : String
  version : String
  suite : String
  cases : Nat
  caseCompleted : Nat
  caseErrored : Nat
  passRate : Rat
  semanticSimilarity : Rat
  p95LatencyMs : Rat
  costMeanUsd : Rat
  createdAt : Nat
  status : RunStatus

structure DashboardChunk where
  rank : Nat
  docId : String
  text : String
  score : Option Rat

structure DashboardTraceCase where
  id : String
  tag : String
  evaluator : String
  reason : String
  question : String
  expected : String
  baselineAnswer : String
  candidateAnswer : String
  semanticScore : Rat
  keywordScore : Rat
  retrievalHit : Bool
  latencyMs : Int
  costUsd : Rat
  chunks : List DashboardChunk
  adapter : String

structure TracePagination where
  total : Nat
  limit : Nat
  offset : Nat
  returned : Nat

structure DashboardTag where
  tag : String
  baselineCaseCount : Nat
  candidateCaseCount : Nat
  candidateFailureCount : Nat
  candidatePassRate : Rat

structure DashboardGateRule where
  metric : String
  direction : String
  tolerance : String
  verdict : Verdict

structure DashboardSnapshot where
  comparisonId : String
  benchmarkSummary : BenchmarkSummary
  metrics : List DashboardMetric
  runs : List DashboardRun
  traceCases : List DashboardTraceCase
  tracePagination : TracePagination
  tagBreakdown : List DashboardTag
  gateRules : List DashboardGateRule

/-! ## Summary -/

def elapsedSeconds (baseline candidate : EvalRunRow) : Rat :=
  let startTimes := [baseline, candidate].filterMap (·.startedAt)
  let endTimes := [baseline, candidate].filterMap (·.completedAt)
  match startTimes.min?, endTimes.max? with
  | some start, some finish => roundTo 3 (((finish : Int) - (start : Int) : Int) / 1000000 : Rat)
  | _, _ => 0

def casesPerMinute (totalExecutions : Nat) (elapsedSeconds : Rat) : Rat :=
  if elapsedSeconds ≤ 0 then 0 else roundTo 2 (totalExecutions / elapsedSeconds * 60)

def RunRows.versionName (rows : RunRows) : String :=
  (rows.version.map (·.name)).getD rows.run.appVersionId

def RunRows.suiteName (rows : RunRows) : String :=
  (rows.suite.map (·.name)).getD rows.run.suiteId

def buildSummary (rows : DashboardRows) : BenchmarkSummary :=
  let elapsed := elapsedSeconds rows.baseline.run rows.candidate.run
  let totalExecutions := rows.baseline.run.caseCompleted + rows.candidate.run.caseCompleted
  { generatedAt := rows.report.createdAt
    projectName := (rows.app.map (·.name)).getD "Unknown app"
    suiteName := rows.candidate.suiteName
    baselineVersion := rows.baseline.versionName
    candidateVersion := rows.candidate.versionName
    caseCount := rows.candidate.run.caseCount
    totalExecutions
    elapsedSeconds := elapsed
    casesPerMinute := casesPerMinute totalExecutions elapsed
    gateVerdict := rows.report.gateVerdict }

/-! ## Metrics -/

structure MetricSpec where
  key : Metric
  label : String
  shortLabel : String
  unit : String
  direction : String

def metricSpecs : List MetricSpec := [
  ⟨.passRate, "Pass rate", "Pass", "%", "higher"⟩,
  ⟨.semanticSimilarity, "Token overlap", "Overlap", "score", "higher"⟩,
  ⟨.p95LatencyMs, "p95 latency", "p95", "ms", "lower"⟩,
  ⟨.costMeanUsd, "Mean cost", "Cost", "usd", "lower"⟩]

section

variable (floats : FloatConversion) (text : Json → String)

def buildMetric (report : RegressionReport) (gateRules : Json) (spec : MetricSpec) :
    Except HttpError DashboardMetric := do
  let metric := report.metrics spec.key
  let rule ← gateRules.getOrRaise spec.key.text (.dict [])
  let tolerance ← asFloat floats (← rule.getOrRaise "tolerance" (.float 0))
  let verdict := ((reasonFor report.gateReasons spec.key).map (·.verdict)).getD .pass
  return {
    key := spec.key
    label := spec.label
    shortLabel := spec.shortLabel
    unit := spec.unit
    baseline := metric.baselinePoint
    candidate := metric.candidatePoint
    baselineCi := (metric.baselineCiLower, metric.baselineCiUpper)
    candidateCi := (metric.candidateCiLower, metric.candidateCiUpper)
    delta := metric.deltaPoint
    deltaCi := (metric.deltaCiLower, metric.deltaCiUpper)
    direction := spec.direction
    tolerance
    status := if (gateRules.find? spec.key.text).isSome then some verdict else none }

/-! ## Runs -/

def findFirstResult (results : List EvalResultRow) (evaluatorNames : List String) :
    Option EvalResultRow :=
  evaluatorNames.findSome? fun name => results.find? (·.evaluatorName == name)

def ItemRows.semantic (rows : ItemRows) : Option EvalResultRow :=
  findFirstResult rows.results ["token_f1_overlap", "semantic_similarity"]

def ItemRows.casePassed (rows : ItemRows) : Bool :=
  let applicable := rows.results.filter fun result =>
    !result.skipped && !result.errored && result.passed.isSome
  !applicable.isEmpty && !rows.results.any (·.errored) &&
    applicable.all (·.passed == some true)

/-- `sum` of floats. -/
def floatSum (values : List Rat) : Rat :=
  if floats.compensates then compensatedSum Binary64.nearest values
  else roundedSum Binary64.nearest values

/-- `_average`. Its decimal stands for the double next to it. -/
def roundedAverage (values : List Rat) : Rat :=
  if values.isEmpty then 0
  else roundTo 6 (Binary64.nearest (floatSum floats values / values.length))

/-- The columns of a row are floats when they are collected. -/
def RunRows.toDashboardRow (rows : RunRows) : DashboardRun where
  id := rows.run.id
  version := rows.versionName
  suite := rows.suiteName
  cases := rows.run.caseCount
  caseCompleted := rows.run.caseCompleted
  caseErrored := rows.run.caseErrored
  passRate := roundedAverage floats (rows.items.map fun item => if item.casePassed then 1 else 0)
  semanticSimilarity :=
    roundedAverage floats
      ((rows.items.filterMap fun item => item.semantic.bind (·.score)).map Binary64.nearest)
  p95LatencyMs :=
    percentile (rows.items.filterMap fun item => item.item.recordedLatencyMs.map (↑·)) (19 / 20)
  costMeanUsd :=
    roundedAverage floats
      ((rows.items.filterMap (·.item.recordedCostUsd)).map Binary64.nearest)
  createdAt := rows.run.createdAt
  status := rows.run.status

/-! ## Trace cases -/

def EvalResultRow.failed (result : EvalResultRow) : Bool :=
  (result.passed == some false || result.errored) && !result.skipped

/-- The entry of `failed_by_item`. -/
def ItemRows.failure (rows : ItemRows) : Option (Option EvalResultRow) :=
  match rows.results.find? (·.failed) with
  | some result => some (some result)
  | none => if rows.item.status.failed then some none else none

def firstTag (payload : Json) : String :=
  match payload.get "tags" (.list []) with
  | .list (tag :: _) => text tag
  | _ => "untagged"

def extractQuestion (payload : Json) : String :=
  let rawInput := payload.get "input" (.str "")
  if rawInput.isDict then text (rawInput.get "question" (.str "")) else text rawInput

def failureReason (result : Option EvalResultRow) (item : EvalRunItem) : String :=
  match result with
  | some result =>
      (truthy result.errorMessage).getD s!"{result.evaluatorName} failed"
  | none => (truthy item.errorMessage).getD s!"Execution {item.status.text}"

def traceAnswer : Option TraceRow → String
  | none => ""
  | some trace =>
      let output := trace.payload.get "output" (.dict [])
      if output.isDict then text (output.get "answer" (.str "")) else ""

/-- `chunk.get("text") or chunk.get("chunk_text") or ""`. -/
def chunkText (chunk : Json) : Json :=
  let first := chunk.get "text" .null
  let second := chunk.get "chunk_text" .null
  if first.isTruthy then first else if second.isTruthy then second else .str ""

def traceChunks : Option TraceRow → Except HttpError (List DashboardChunk)
  | none => .ok []
  | some trace =>
      match (trace.payload.get "output" (.dict [])).get "retrieved_chunks" (.list []) with
      | .list chunks =>
          ((chunks.zipIdx 1).filter (·.1.isDict)).mapM fun (chunk, rank) => do
            let score ← asFloat floats (chunk.get "score" (.float 0))
            return {
              rank
              docId := text (chunk.get "doc_id" (.str ""))
              text := text (chunkText chunk)
              score }
      | _ => .ok []

def traceAdapter (adapterModule : String) : Option TraceRow → Except HttpError String
  | none => .ok adapterModule
  | some trace => do
      let metadata := trace.payload.get "metadata" (.dict [])
      let named ← metadata.getOrRaise "adapter_module" (.str adapterModule)
      return text named

def resultScore (result : Option EvalResultRow) : Rat := (result.bind (·.score)).getD 0

def traceCaseToDashboardRow (case : EvalCaseRow) (rows : ItemRows)
    (baselineTrace : Option TraceRow) (failedResult : Option EvalResultRow)
    (adapterModule : String) : Except HttpError DashboardTraceCase := do
  let retrieval := findFirstResult rows.results ["retrieval_hit_rate"]
  let chunks ← traceChunks floats text rows.trace
  let adapter ← traceAdapter text adapterModule rows.trace
  return {
    id := (truthy case.externalId).getD case.id
    tag := firstTag text case.payload
    evaluator := (failedResult.map (·.evaluatorName)).getD "execution"
    reason := failureReason failedResult rows.item
    question := extractQuestion text case.payload
    expected := text (case.payload.get "expected_output" (.str ""))
    baselineAnswer := traceAnswer text baselineTrace
    candidateAnswer := traceAnswer text rows.trace
    semanticScore := resultScore rows.semantic
    keywordScore := resultScore (findFirstResult rows.results ["contains_keywords"])
    retrievalHit := (retrieval.map (·.passed == some true)).getD false
    latencyMs := rows.item.recordedLatencyMs.getD 0
    costUsd := rows.item.recordedCostUsd.getD 0
    chunks
    adapter }

/-- The body of the loop over the failed items. An item without a case is left
out. -/
def buildTraceCase (baseline : RunRows) (adapterModule : String) (rows : ItemRows) :
    Except HttpError (Option DashboardTraceCase) :=
  match rows.failure, rows.case with
  | some failedResult, some case => do
      -- Of two baseline items of a case the dictionary keeps the last.
      let baselineItem := baseline.items.reverse.find? (·.item.caseId == rows.item.caseId)
      let row ← traceCaseToDashboardRow floats text case rows (baselineItem.bind (·.trace))
        failedResult adapterModule
      return some row
  | _, _ => .ok none

def buildTraceCases (baseline candidate : RunRows) :
    Except HttpError (List DashboardTraceCase) := do
  let items := candidate.items.insertionSort fun rows other => rows.item.caseId ≤ other.item.caseId
  let adapterModule := (candidate.version.map (·.adapterModule)).getD "unknown"
  let traceCases ← items.mapM (buildTraceCase floats text baseline adapterModule)
  return traceCases.reduceOption.insertionSort fun row other => row.id ≤ other.id

/-! ## Tags -/

def runTags (items : List ItemRows) : List String :=
  items.filterMap fun rows => rows.case.map fun case => firstTag text case.payload

def candidatePassRate (candidateCount failureCount : Nat) : Rat :=
  if candidateCount = 0 then 0 else roundTo 6 (1 - failureCount / candidateCount)

def buildTagBreakdown (baseline candidate : RunRows) : List DashboardTag :=
  let baselineTags := runTags text baseline.items
  let candidateTags := runTags text candidate.items
  let failedTags := runTags text (candidate.items.filter (·.failure.isSome))
  let tags := (baselineTags ++ candidateTags ++ failedTags).dedup.insertionSort (· ≤ ·)
  tags.map fun tag =>
    { tag
      baselineCaseCount := baselineTags.count tag
      candidateCaseCount := candidateTags.count tag
      candidateFailureCount := failedTags.count tag
      candidatePassRate := candidatePassRate (candidateTags.count tag) (failedTags.count tag) }

/-! ## Gate rules -/

def metricLabel (metric : String) : String :=
  ((metricSpecs.find? (·.key.text == metric)).map (·.label)).getD metric

def verdictNamed (gateReasons : List GateReason) (metric : String) : Verdict :=
  ((gateReasons.reverse.find? (·.metric.text == metric)).map (·.verdict)).getD .pass

def buildGateRules (gateRule : Option GateRuleRow) (gateReasons : List GateReason) :
    Except HttpError (List DashboardGateRule) :=
  match gateRule with
  | none => .ok []
  | some gateRule =>
      match gateRule.rules with
      | .dict rules => rules.mapM fun (metric, rule) => do
          let direction ← rule.getOrRaise "direction" .null
          let tolerance ← rule.getOrRaise "tolerance" (.str "")
          let higher :=
            match direction with
            | .str name => name == "higher_better"
            | _ => false
          return {
            metric := metricLabel metric
            direction := if higher then "higher" else "lower"
            tolerance := text tolerance
            verdict := verdictNamed gateReasons metric }
      | _ => .error internalServerError

/-! ## Assembly -/

/-- The response is refused when it holds an infinity. -/
def DashboardSnapshot.isFinite (snapshot : DashboardSnapshot) : Bool :=
  snapshot.metrics.all (·.tolerance.isSome) &&
    snapshot.traceCases.all fun traceCase => traceCase.chunks.all (·.score.isSome)

def renderSnapshot (failureLimit failureOffset : Nat) (rows : DashboardRows) :
    Except HttpError DashboardSnapshot := do
  let gateRules := (rows.gateRule.map (·.rules)).getD (.dict [])
  let traceCases ← buildTraceCases floats text rows.baseline rows.candidate
  let paginated := (traceCases.drop failureOffset).take failureLimit
  let metrics ← metricSpecs.mapM (buildMetric floats rows.report gateRules)
  let gateRules ← buildGateRules text rows.gateRule rows.report.gateReasons
  let snapshot : DashboardSnapshot := {
    comparisonId := rows.comparison.id
    benchmarkSummary := buildSummary rows
    metrics
    runs := [rows.candidate.toDashboardRow floats, rows.baseline.toDashboardRow floats]
    traceCases := paginated
    tracePagination :=
      { total := traceCases.length, limit := failureLimit, offset := failureOffset
        returned := paginated.length }
    tagBreakdown := buildTagBreakdown text rows.baseline rows.candidate
    gateRules }
  if snapshot.isFinite then return snapshot else throw internalServerError

def buildLatestDashboardSnapshot (db : Database) (organizationId : String)
    (comparisonId : Option String) (failureLimit failureOffset : Nat) :
    Except HttpError (Option DashboardSnapshot) :=
  match db.loadDashboard organizationId comparisonId with
  | none => .ok none
  | some rows => (renderSnapshot floats text failureLimit failureOffset rows).map some

end

end EvalForge
